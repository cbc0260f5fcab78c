import Mathlib.Logic.Function.Basic
import Registry.Proofs.Repository.Request

/-!
# Identities kept in a table

A table whose rows are the rows of identities stands for these identities. What the statements do to
the table they do to the list of identities: inserting adds one at the end, a patch changes the one
of its id, deleting leaves it out, and reading gives them back. The rows with the latest time of
creation first are the identities with the latest instant first (`latestFirst_map_row`).
-/

namespace Registry

/-! ## Canonical metadata -/

/-- Metadata in the form in which documents are read back: at every level the keys are distinct
texts, sequences are lists, numbers are finite and not too long and no surrogates can be joined, and
there are at most two hundred levels. -/
def CanonicalMetadata (m : Option Inputs) : Prop :=
  (metadataValue m).Plain ∧ (metadataValue m).Writable 200

theorem canonicalMetadata_none : CanonicalMetadata none := ⟨trivial, trivial⟩

theorem CanonicalMetadata.exists_encode {m : Option Inputs} (h : CanonicalMetadata m) :
    ∃ document, Metadata.encode (metadataValue m) = .ok document := by
  obtain ⟨document, hd⟩ := Json.writeValue_of_writable _ h.2 (show 200 ≤ Json.nestingLimit by decide)
  exact ⟨document, Metadata.encode_eq_ok_iff.mpr hd⟩

theorem CanonicalMetadata.copyCalls_le {m : Option Inputs} (h : CanonicalMetadata m) :
    (metadataValue m).copyCalls ≤ callsLeft :=
  (Json.copyCalls_le_of_writable _ h.2).trans (by decide)

namespace Identity

/-! ## The row of an identity -/

/-- An identity that is kept: its metadata are canonical and it has been created. -/
structure Kept (i : Identity) : Prop where
  metadata : CanonicalMetadata i.metadata
  createdAt : i.createdAt.isSome = true

/-- The document of the metadata of an identity. -/
def document (i : Identity) : Text :=
  match Metadata.encode (metadataValue i.metadata) with
  | .ok t => t
  | .error _ => []

def row (i : Identity) : Row := i.toRow i.document

theorem document_eq {i : Identity} {document : Text}
    (h : Metadata.encode (metadataValue i.metadata) = .ok document) : i.document = document := by
  rw [Identity.document, h]

theorem Kept.encode {i : Identity} (h : i.Kept) :
    Metadata.encode (metadataValue i.metadata) = .ok i.document := by
  obtain ⟨document, hd⟩ := h.metadata.exists_encode
  rw [hd, document_eq hd]

theorem Kept.toIdentity {i : Identity} (h : i.Kept) :
    (storedRecord i i.document).toIdentity = .ok i :=
  toIdentity_storedRecord h.encode h.metadata.1

/-- The text of no cell of an identity has surrogates. -/
structure Encodable (i : Identity) : Prop where
  id : i.id.NoSurrogates
  detail : ∀ a, (i.detail a).NoSurrogates

theorem bindError?_eq_none_iff {cells : List Cell} :
    bindError? cells = none ↔ ∀ t, Cell.text t ∈ cells → t.NoSurrogates := by
  unfold bindError?
  rw [List.findSome?_eq_none_iff]
  constructor
  · intro h t ht
    exact EncodeError.of?_eq_none_iff.mp (h (.text t) ht)
  · intro h cell hcell
    cases cell with
    | text t => exact EncodeError.of?_eq_none_iff.mpr (h t hcell)
    | _ => rfl

theorem noSurrogates_of_utcCell {d : Option UtcTime} {t : Text} (h : utcCell d = .text t) :
    t.NoSurrogates := by
  cases d with
  | none => cases h
  | some u =>
    obtain rfl := Cell.text.inj h
    exact (storedText_isPrintable u.date u.time).noSurrogates

/-- Only the id and the details of an identity can keep its row from being bound. -/
theorem bindError?_toRow_iff {i : Identity} {document : Text}
    (hd : Metadata.encode (metadataValue i.metadata) = .ok document) :
    bindError? (Column.all.map (i.toRow document)) = none ↔ i.Encodable := by
  rw [bindError?_eq_none_iff]
  constructor
  · intro h
    refine ⟨h i.id ?_, fun a => h (i.detail a) ?_⟩
    · exact List.mem_map.mpr ⟨.identityId, Column.mem_all _, rfl⟩
    · exact List.mem_map.mpr ⟨.detail a, Column.mem_all _, rfl⟩
  · intro h t ht
    obtain ⟨c, -, hc⟩ := List.mem_map.mp ht
    cases c with
    | identityId =>
      obtain rfl := Cell.text.inj hc
      exact h.id
    | detail a =>
      obtain rfl := Cell.text.inj hc
      exact h.detail a
    | dob => exact noSurrogates_of_utcCell hc
    | createdAt => exact noSurrogates_of_utcCell hc
    | metadata =>
      obtain rfl := Cell.text.inj hc
      exact (Metadata.encode_isPrintable hd).noSurrogates

/-! ## Patching -/

/-- An identity with the fields that a patch has. -/
def patched (i : Identity) (p : Patch) : Identity where
  id := i.id
  detail a := (p.detail a).getD (i.detail a)
  dob := p.dob.or i.dob
  createdAt := i.createdAt
  metadata := p.metadata.or i.metadata

theorem Kept.patched {i : Identity} {p : Patch} (h : i.Kept) (hp : CanonicalMetadata p.metadata) :
    (i.patched p).Kept := by
  refine ⟨?_, h.createdAt⟩
  show CanonicalMetadata (p.metadata.or i.metadata)
  cases hm : p.metadata with
  | none => exact h.metadata
  | some m =>
    rw [hm] at hp
    exact hp

/-- The row of a patched identity is the patched row. -/
theorem row_patched (i : Identity) {p : Patch} {document : Text} (hd : p.document = .ok document) :
    (i.patched p).row = p.patchRow document i.row := by
  have hdoc : p.metadata = none ∧ (i.patched p).document = i.document
      ∨ p.metadata.isSome = true ∧ (i.patched p).document = document := by
    unfold Patch.document at hd
    cases hm : p.metadata with
    | none =>
      refine .inl ⟨rfl, ?_⟩
      rw [Identity.document, Identity.patched, hm]
      rfl
    | some m =>
      rw [hm] at hd
      refine .inr ⟨rfl, document_eq ?_⟩
      rw [Identity.patched, hm]
      exact hd
  funext c
  cases c with
  | identityId => rfl
  | createdAt => rfl
  | detail a =>
    show Cell.text ((p.detail a).getD (i.detail a))
      = ((p.detail a).map Cell.text).getD (.text (i.detail a))
    cases p.detail a <;> rfl
  | dob =>
    show utcCell (p.dob.or i.dob) = (p.dob.map fun u => utcCell (some u)).getD (utcCell i.dob)
    cases p.dob <;> rfl
  | metadata =>
    show Cell.text (i.patched p).document
      = (p.metadata.map fun _ => Cell.text document).getD (.text i.document)
    rcases hdoc with ⟨hm, hdoc⟩ | ⟨hm, hdoc⟩
    · rw [hm, hdoc]
      rfl
    · obtain ⟨m, hm⟩ := Option.isSome_iff_exists.mp hm
      rw [hm, hdoc]
      rfl

end Identity

/-! ## Tables of identities -/

/-- The identity of an id. -/
def lookup (is : List Identity) (id : Text) : Option Identity := is.find? fun i => i.id == id

theorem lookup_eq_some {is : List Identity} (hn : (is.map Identity.id).Nodup) {id : Text}
    {i : Identity} : lookup is id = some i ↔ i ∈ is ∧ i.id = id := by
  unfold lookup
  constructor
  · intro h
    exact ⟨List.mem_of_find?_eq_some h, by simpa using List.find?_some h⟩
  · rintro ⟨hi, rfl⟩
    induction is with
    | nil => cases hi
    | cons j is ih =>
      rw [List.map_cons, List.nodup_cons] at hn
      rw [List.find?_cons]
      rcases List.mem_cons.mp hi with rfl | hi
      · simp
      · have hne : (j.id == i.id) = false :=
          beq_eq_false_iff_ne.mpr fun he => hn.1 (he ▸ List.mem_map_of_mem hi)
        rw [hne]
        exact ih hn.2 hi

theorem matching_map_row (is : List Identity) (id : Text) :
    Table.matching (is.map Identity.row) (textCell id)
      = (is.filter fun i => i.id == id).map Identity.row := by
  unfold Table.matching
  rw [List.filter_map]
  refine congrArg _ (List.filter_congr fun i _ => ?_)
  show (Cell.text i.id == Cell.text id) = (i.id == id)
  simp [beq_eq_decide]

/-- Where keys are distinct, an element is the only one with its key. -/
theorem filter_eq_singleton {α β : Type} [BEq β] [LawfulBEq β] {key : α → β} {l : List α}
    (hn : (l.map key).Nodup) {a : α} (ha : a ∈ l) : (l.filter fun b => key b == key a) = [a] := by
  induction l with
  | nil => cases ha
  | cons first rest ih =>
    rw [List.map_cons, List.nodup_cons] at hn
    rw [List.filter_cons]
    rcases List.mem_cons.mp ha with rfl | ha
    · have hrest : (rest.filter fun b => key b == key a) = [] := by
        rw [List.filter_eq_nil_iff]
        intro b hb he
        exact hn.1 (eq_of_beq he ▸ List.mem_map_of_mem hb)
      rw [if_pos (beq_self_eq_true _), hrest]
    · have hne : (key first == key a) = false :=
        beq_eq_false_iff_ne.mpr fun he => hn.1 (he ▸ List.mem_map_of_mem ha)
      rw [hne]
      exact ih hn.2 ha

/-- With distinct ids there is one identity of an id or none. -/
theorem filter_id_eq {is : List Identity} (hn : (is.map Identity.id).Nodup) (id : Text) :
    (is.filter fun i => i.id == id) = (lookup is id).toList := by
  cases hl : lookup is id with
  | none =>
    rw [Option.toList_none, List.filter_eq_nil_iff]
    exact List.find?_eq_none.mp hl
  | some i =>
    obtain ⟨hi, rfl⟩ := (lookup_eq_some hn).mp hl
    exact filter_eq_singleton hn hi

theorem hasId_map_row (is : List Identity) (id : Text) :
    Table.hasId (is.map Identity.row) (textCell id) = (lookup is id).isSome := by
  unfold Table.hasId lookup
  rw [List.any_map, List.isSome_find?]
  refine congrArg (List.any is) (funext fun i => ?_)
  show (Cell.text i.id == Cell.text id) = (i.id == id)
  simp [beq_eq_decide]

/-! ## What statements do to the identities -/

theorem insert_map_row {is : List Identity} {i : Identity} (hi : i.createdAt.isSome = true)
    (hid : i.id ∉ is.map Identity.id) :
    Table.insert (is.map Identity.row) i.row = .ok ((is ++ [i]).map Identity.row) := by
  have hhas : Table.hasId (is.map Identity.row) (.text i.id) = false := by
    unfold Table.hasId
    rw [List.any_eq_false]
    intro row hrow he
    obtain ⟨j, hj, rfl⟩ := List.mem_map.mp hrow
    have hj' : Cell.text j.id = .text i.id := eq_of_beq he
    exact hid (Cell.text.inj hj' ▸ List.mem_map_of_mem hj)
  have hconv : i.row.converted = i.row := converted_toRow i _
  have hfilled : i.row.isFilled = true := isFilled_toRow i.document hi
  unfold Table.insert
  simp only [hconv, hfilled]
  rw [show i.row .identityId = .text i.id from rfl, hhas, List.map_append]
  rfl

/-- The identities with the one of an id patched. -/
def patchIdentities (p : Patch) (is : List Identity) : List Identity :=
  is.map fun i => if i.id = p.id then i.patched p else i

theorem patchTable_map_row {p : Patch} {document : Text} (hd : p.document = .ok document)
    (is : List Identity) :
    p.patchTable document (is.map Identity.row) = (patchIdentities p is).map Identity.row := by
  unfold Patch.patchTable patchIdentities
  rw [List.map_map, List.map_map]
  refine List.map_congr_left fun i _ => ?_
  show (if Cell.text i.id == Cell.text p.id then p.patchRow document i.row else i.row)
    = (if i.id = p.id then i.patched p else i).row
  by_cases h : i.id = p.id
  · rw [if_pos h, if_pos (by rw [h]; exact beq_self_eq_true _), Identity.row_patched i hd]
  · rw [if_neg h, if_neg fun he => h (Cell.text.inj (eq_of_beq he))]

theorem erase_map_row (is : List Identity) (id : Text) :
    (Table.erase (is.map Identity.row) (textCell id)).1
      = (is.filter fun i => i.id != id).map Identity.row := by
  unfold Table.erase
  rw [List.filter_map]
  refine congrArg _ (List.filter_congr fun i _ => ?_)
  show (Cell.text i.id != Cell.text id) = (i.id != id)
  simp [bne]

theorem map_id_patchIdentities (p : Patch) (is : List Identity) :
    (patchIdentities p is).map Identity.id = is.map Identity.id := by
  unfold patchIdentities
  rw [List.map_map]
  refine List.map_congr_left fun i _ => ?_
  show (if i.id = p.id then i.patched p else i).id = i.id
  split
  · rfl
  · rfl

theorem lookup_append {is : List Identity} {i : Identity} (hid : i.id ∉ is.map Identity.id) :
    lookup (is ++ [i]) = Function.update (lookup is) i.id (some i) := by
  funext id
  unfold lookup
  rw [List.find?_append]
  by_cases h : id = i.id
  · subst h
    have hnone : is.find? (fun j => j.id == i.id) = none :=
      List.find?_eq_none.mpr fun j hj he => hid (eq_of_beq he ▸ List.mem_map_of_mem hj)
    rw [hnone, Function.update_self, Option.none_or]
    simp
  · have hne : (i.id == id) = false := beq_eq_false_iff_ne.mpr (Ne.symm h)
    rw [Function.update_of_ne h, List.find?_cons, hne]
    simp

theorem lookup_patchIdentities (p : Patch) (is : List Identity) :
    lookup (patchIdentities p is)
      = Function.update (lookup is) p.id ((lookup is p.id).map fun i => i.patched p) := by
  funext id
  unfold lookup patchIdentities
  induction is with
  | nil =>
    by_cases h : id = p.id
    · rw [h, Function.update_self]
      rfl
    · rw [Function.update_of_ne h]
      rfl
  | cons j is ih =>
    have hid : (if j.id = p.id then j.patched p else j).id = j.id := by split <;> rfl
    rw [List.map_cons, List.find?_cons, hid]
    by_cases hj : j.id = id
    · subst hj
      by_cases hp : j.id = p.id
      · rw [hp, Function.update_self]
        simp [hp]
      · rw [Function.update_of_ne hp]
        simp [hp]
    · have hne : (j.id == id) = false := beq_eq_false_iff_ne.mpr hj
      simp only [hne]
      rw [ih]
      by_cases hp : id = p.id
      · subst hp
        rw [Function.update_self, Function.update_self, List.find?_cons, hne]
      · rw [Function.update_of_ne hp, Function.update_of_ne hp, List.find?_cons, hne]

theorem lookup_filter (is : List Identity) (id : Text) :
    lookup (is.filter fun i => i.id != id) = Function.update (lookup is) id none := by
  funext k
  unfold lookup
  rw [List.find?_filter]
  by_cases h : k = id
  · subst h
    rw [Function.update_self, List.find?_eq_none]
    intro i _
    simp
  · rw [Function.update_of_ne h]
    refine congrFun (congrArg _ (funext fun i => ?_)) is
    by_cases hi : i.id = k
    · subst hi
      simp [h]
    · simp [hi]

/-! ## Reading all identities -/

namespace Repository

theorem fetchAll_map_row (is : List Identity) :
    fetchAll (is.map Identity.row) = .ok (is.map fun i => storedRecord i i.document) := by
  induction is with
  | nil => rfl
  | cons i is ih =>
    have hi : i.row.fetch = .ok (storedRecord i i.document) := fetch_toRow i i.document
    rw [List.map_cons, fetchAll, hi, ih]
    rfl

theorem scanAll_stored {is : List Identity} (h : ∀ i ∈ is, i.Kept) :
    scanAll (is.map fun i => storedRecord i i.document) = .ok is := by
  induction is with
  | nil => rfl
  | cons i is ih =>
    rw [List.map_cons, scanAll, (h i (by simp)).toIdentity,
      ih fun j hj => h j (List.mem_cons_of_mem i hj)]
    rfl

end Repository

/-- The instant at which an identity was created. -/
def Identity.createdInstant (i : Identity) : Nat :=
  match i.createdAt with
  | some u => u.instant
  | none => 0

theorem le_createdAt {i j : Identity} (hi : i.createdAt.isSome = true)
    (hj : j.createdAt.isSome = true) :
    Cell.le (i.row .createdAt) (j.row .createdAt)
      = decide (i.createdInstant ≤ j.createdInstant) := by
  obtain ⟨u, hu⟩ := Option.isSome_iff_exists.mp hi
  obtain ⟨v, hv⟩ := Option.isSome_iff_exists.mp hj
  show Cell.le (utcCell i.createdAt) (utcCell j.createdAt) = _
  unfold Identity.createdInstant
  rw [hu, hv]
  show Text.le (storedText u.date u.time) (storedText v.date v.time) = decide (u.instant ≤ v.instant)
  rw [Bool.eq_iff_iff, storedText_le_iff, decide_eq_true_iff]

/-- The identities with the latest created first; of those created at one instant the last one comes
first. -/
def latestCreated (is : List Identity) : List Identity :=
  is.reverse.mergeSort fun i j => decide (j.createdInstant ≤ i.createdInstant)

theorem latestFirst_map_row {is : List Identity} (h : ∀ i ∈ is, i.createdAt.isSome = true) :
    Table.latestFirst (is.map Identity.row) = (latestCreated is).map Identity.row := by
  unfold Table.latestFirst latestCreated
  rw [← List.map_reverse]
  refine (List.map_mergeSort fun i hi j hj => ?_).symm
  exact (le_createdAt (h j (List.mem_reverse.mp hj)) (h i (List.mem_reverse.mp hi))).symm

theorem latestCreated_perm (is : List Identity) : (latestCreated is).Perm is :=
  (List.mergeSort_perm _ _).trans is.reverse_perm

theorem latestCreated_pairwise (is : List Identity) :
    (latestCreated is).Pairwise fun i j => j.createdInstant ≤ i.createdInstant := by
  let le (i j : Identity) : Bool := decide (j.createdInstant ≤ i.createdInstant)
  have htrans : ∀ i j k, le i j → le j k → le i k := by
    intro i j k hij hjk
    simp only [le, decide_eq_true_eq] at *
    omega
  have htotal : ∀ i j, le i j || le j i := by
    intro i j
    simp only [le, Bool.or_eq_true, decide_eq_true_eq]
    omega
  exact (List.pairwise_mergeSort htrans htotal is.reverse).imp of_decide_eq_true

end Registry
