import Registry.Proofs.Metadata.Encoded
import Registry.Proofs.Repository.Listing

/-!
# Rows with metadata stored as data

Two rows agree if they have one id and one time of creation and the same is made of them, be it an
identity or an error (`Row.Agrees`). Tables whose rows agree, one by one, are read and listed alike
(`Repository.step_get_eq`, `Repository.step_getAll_eq`), and a row agrees with itself when the text
of its metadata is stored as data in some encoding. So reading does not depend on which of the two
is stored (`Metadata.decode_recoded`).
-/

namespace Registry

/-! ## Rows that agree -/

/-- Two rows have one id and one time of creation, and the same is made of them. -/
structure Row.Agrees (row row' : Row) : Prop where
  id : row .identityId = row' .identityId
  createdAt : row .createdAt = row' .createdAt
  reads : row.fetch.map Record.toIdentity = row'.fetch.map Record.toIdentity

namespace Row.Agrees

variable {row row' : Row}

theorem refl (row : Row) : row.Agrees row := ⟨rfl, rfl, rfl⟩

/-- The dates of rows that agree both cannot be read, or the same is made of their records. -/
theorem fetch_cases (h : row.Agrees row') :
    (∃ c, row.fetch = .error c ∧ row'.fetch = .error c)
      ∨ ∃ record record', row.fetch = .ok record ∧ row'.fetch = .ok record'
        ∧ record.toIdentity = record'.toIdentity := by
  have hreads := h.reads
  cases hrow : row.fetch with
  | error c =>
    rw [hrow] at hreads
    exact .inl ⟨c, rfl, map_eq_error.mp hreads.symm⟩
  | ok record =>
    rw [hrow] at hreads
    obtain ⟨record', hrow', hidentity⟩ := map_eq_ok.mp hreads.symm
    exact .inr ⟨record, record', rfl, hrow', hidentity.symm⟩

end Row.Agrees

/-- Records that differ in their metadata only, which are decoded to the same. -/
theorem Record.toIdentity_congr {record record' : Record}
    (hother : ∀ c, c ≠ .metadata → record c = record' c)
    (hmetadata : Metadata.decode (record .metadata) = Metadata.decode (record' .metadata)) :
    record.toIdentity = record'.toIdentity := by
  have hinputs (m : Value) : record.inputs m = record'.inputs m := by
    refine List.map_congr_left fun c _ => ?_
    split
    · rfl
    · next hc => rw [hother c hc]
  unfold toIdentity
  simp only [hmetadata, hinputs]

def Row.withMetadata (row : Row) (cell : Cell) : Row := Function.update row .metadata cell

/-- A row agrees with itself if its metadata are stored in another way that is read as the same. -/
theorem Row.agrees_withMetadata {row : Row} {cell : Cell}
    (h : Metadata.decode (row .metadata).toValue = Metadata.decode cell.toValue) :
    row.Agrees (row.withMetadata cell) := by
  have hother (c : Column) (hc : c ≠ .metadata) : row.withMetadata cell c = row c := by
    rw [withMetadata, Function.update_of_ne hc]
  refine ⟨(hother .identityId nofun).symm, (hother .createdAt nofun).symm, ?_⟩
  unfold fetch
  rw [hother .dob nofun, hother .createdAt nofun]
  cases fetchDate (row .dob) with
  | error c => rfl
  | ok dob =>
    cases fetchDate (row .createdAt) with
    | error c => rfl
    | ok createdAt =>
      refine congrArg Except.ok (Record.toIdentity_congr (fun c hc => ?_) ?_)
      · cases c with
        | dob | createdAt => rfl
        | metadata => exact absurd rfl hc
        | identityId => exact congrArg Cell.toValue (hother .identityId nofun).symm
        | detail d => exact congrArg Cell.toValue (hother (.detail d) nofun).symm
      · show Metadata.decode (row .metadata).toValue
          = Metadata.decode (row.withMetadata cell .metadata).toValue
        rw [h, withMetadata, Function.update_self]

/-! ## Tables whose rows agree -/

/-- Related lists are related when they are sorted by orders that agree on related entries. -/
theorem forall₂_mergeSort {α : Type} {R : α → α → Prop} {le : α → α → Bool} {l l' : List α}
    (hle : ∀ a a' b b', R a a' → R b b' → le a b = le a' b') (h : List.Forall₂ R l l') :
    List.Forall₂ R (l.mergeSort le) (l'.mergeSort le) := by
  -- the pairs of related entries are sorted as their first and as their second entries are
  obtain ⟨ps, rfl, rfl⟩ : ∃ ps : List { p : α × α // R p.1 p.2 },
      ps.map (·.1.1) = l ∧ ps.map (·.1.2) = l' := by
    induction h with
    | nil => exact ⟨[], rfl, rfl⟩
    | @cons a b _ _ hab _ ih =>
      obtain ⟨ps, rfl, rfl⟩ := ih
      exact ⟨⟨(a, b), hab⟩ :: ps, rfl, rfl⟩
  rw [← List.map_mergeSort (r := fun p q => le p.1.1 q.1.1) fun _ _ _ _ => rfl,
    ← List.map_mergeSort (r := fun p q => le p.1.1 q.1.1)
      fun p _ q _ => hle _ _ _ _ p.2 q.2,
    List.forall₂_map_left_iff, List.forall₂_map_right_iff, List.forall₂_same]
  exact fun p _ => p.2

namespace Repository

variable {t t' : Table}

theorem forall₂_matching (h : List.Forall₂ Row.Agrees t t') (id : Cell) :
    List.Forall₂ Row.Agrees (t.matching id) (t'.matching id) :=
  List.rel_filter (fun row row' hrow => by simp only [hrow.id]) h

theorem forall₂_latestFirst (h : List.Forall₂ Row.Agrees t t') :
    List.Forall₂ Row.Agrees t.latestFirst t'.latestFirst :=
  forall₂_mergeSort (fun a a' b b' ha hb => by rw [ha.createdAt, hb.createdAt]) (List.rel_reverse h)

theorem readRow_eq_of_agrees {row row' : Row} (h : row.Agrees row') (r : Repository)
    (elapsed : Nat) : r.readRow elapsed row = r.readRow elapsed row' := by
  rw [readRow_eq, readRow_eq]
  rcases h.fetch_cases with ⟨c, hrow, hrow'⟩ | ⟨record, record', hrow, hrow', hidentity⟩
  · rw [hrow, hrow']
  · rw [hrow, hrow']
    simp only [hidentity]

theorem readId_eq_of_agrees (h : List.Forall₂ Row.Agrees t t') (r : Repository)
    (fault : Option FaultPoint) (elapsed : Nat) (id : Text) :
    r.readId (some t) fault elapsed id = r.readId (some t') fault elapsed id := by
  have hmatching := forall₂_matching h (textCell id)
  unfold readId query
  cases r.readTimeout.statements r.dialect with
  | error e => rfl
  | ok statements =>
    simp only [Database.table]
    by_cases hfault : fault = some .query
    · simp only [hfault, if_true]
    simp only [hfault, if_false]
    cases EncodeError.of? id with
    | some e => rfl
    | none =>
      generalize t.matching (textCell id) = rows at hmatching ⊢
      generalize t'.matching (textCell id) = rows' at hmatching ⊢
      cases hmatching with
      | nil => rfl
      | cons hrow _ => exact congrArg (·.mapError readError) (readRow_eq_of_agrees hrow r elapsed)

theorem step_get_eq (h : List.Forall₂ Row.Agrees t t') (r : Repository)
    (fault : Option FaultPoint) (elapsed : Nat) (id : Text) :
    (r.step (some t) fault (.get elapsed id)).1 = (r.step (some t') fault (.get elapsed id)).1 := by
  show Answer.ofResult .identity (r.getById (some t) fault elapsed id).result
    = Answer.ofResult .identity (r.getById (some t') fault elapsed id).result
  rw [getById, getById, readId_eq_of_agrees h]

/-- Records of rows that agree are listed alike. -/
theorem fetchAll_scanAll_eq {rows rows' : List Row} (h : List.Forall₂ Row.Agrees rows rows') :
    (fetchAll rows).map scanAll = (fetchAll rows').map scanAll := by
  induction h with
  | nil => rfl
  | @cons row row' rows rows' hrow hrows ih =>
    rcases hrow.fetch_cases with ⟨c, hc, hc'⟩ | ⟨record, record', hok, hok', hidentity⟩
    · rw [fetchAll, fetchAll, hc, hc']
    · rw [fetchAll, fetchAll, hok, hok']
      have hscan (more : List Record) : scanAll (record :: more) = scanAll (record' :: more) := by
        rw [scanAll, scanAll, hidentity]
      simp only
      cases hmore : fetchAll rows with
      | error c =>
        rw [hmore] at ih
        rw [map_eq_error.mp ih.symm]
        rfl
      | ok more =>
        rw [hmore] at ih
        obtain ⟨more', hmore', hmores⟩ := map_eq_ok.mp ih.symm
        rw [hmore']
        refine congrArg Except.ok ?_
        show scanAll (record :: more) = scanAll (record' :: more')
        rw [hscan, scanAll, scanAll, hmores]

theorem step_getAll_eq (h : List.Forall₂ Row.Agrees t t') (r : Repository)
    (fault : Option FaultPoint) :
    (r.step (some t) fault .getAll).1 = (r.step (some t') fault .getAll).1 := by
  have hrows := fetchAll_scanAll_eq (forall₂_latestFirst h)
  show Answer.ofResult .identities (getAll (some t) fault)
    = Answer.ofResult .identities (getAll (some t') fault)
  have hlisted : getAll (some t) fault = getAll (some t') fault := by
    unfold getAll
    simp only [Database.table]
    cases hfetch : fetchAll t.latestFirst with
    | error c =>
      rw [hfetch] at hrows
      rw [map_eq_error.mp hrows.symm]
    | ok records =>
      rw [hfetch] at hrows
      obtain ⟨records', hfetch', hscan⟩ := map_eq_ok.mp hrows.symm
      simp only [hfetch', hscan]
  rw [hlisted]

/-- The answers to reads and to listings do not change with the way in which the metadata of a row
are stored, if they are read as the same. -/
theorem step_withMetadata {row : Row} {cell : Cell}
    (h : Metadata.decode (row .metadata).toValue = Metadata.decode cell.toValue)
    (before after : Table) (r : Repository) (fault : Option FaultPoint) :
    (∀ elapsed id, (r.step (some (before ++ row :: after)) fault (.get elapsed id)).1
        = (r.step (some (before ++ row.withMetadata cell :: after)) fault (.get elapsed id)).1)
      ∧ (r.step (some (before ++ row :: after)) fault .getAll).1
        = (r.step (some (before ++ row.withMetadata cell :: after)) fault .getAll).1 := by
  have hsame (rows : Table) : List.Forall₂ Row.Agrees rows rows :=
    List.forall₂_same.mpr fun row _ => .refl row
  have hrows : List.Forall₂ Row.Agrees (before ++ row :: after)
      (before ++ row.withMetadata cell :: after) :=
    List.rel_append (hsame before) (.cons (Row.agrees_withMetadata h) (hsame after))
  exact ⟨fun elapsed id => step_get_eq hrows r fault elapsed id, step_getAll_eq hrows r fault⟩

end Repository

/-! ## Metadata stored as data -/

namespace Metadata

/-- What is read from a text without surrogates is read from the data that carry it in every
encoding, with the mark or without it; and a row that stores them instead of the text is read and
listed as before, in any table. -/
theorem decode_recoded {t : Text} {v : Value} (hne : t ≠ []) (ht : t.NoSurrogates)
    (h : decode (.text t) = .ok v) (e : Encoding) :
    decode (.bytes (e.encode t)) = .ok v
      ∧ ∀ row : Row, row .metadata = .text t → ∀ before after (r : Repository) fault,
        (∀ elapsed id, (r.step (some (before ++ row :: after)) fault (.get elapsed id)).1
            = (r.step (some (before ++ row.withMetadata (.blob (e.encode t)) :: after)) fault
              (.get elapsed id)).1)
          ∧ (r.step (some (before ++ row :: after)) fault .getAll).1
            = (r.step (some (before ++ row.withMetadata (.blob (e.encode t)) :: after)) fault
              .getAll).1 := by
  have hbytes := decode_bytes_encode hne ht h e
  refine ⟨hbytes, fun row hrow before after r fault => ?_⟩
  refine Repository.step_withMetadata ?_ before after r fault
  rw [hrow]
  exact h.trans hbytes.symm

/-- A document with a code point beyond ASCII and one beyond the basic plane. -/
def accented : Text :=
  Text.ofString "\x7b\"" ++ [CodePoint.ofNat 0xE9] ++ Text.ofString "\":\""
    ++ [CodePoint.ofNat 0x1F600] ++ Text.ofString "\"\x7d"

/-- What the document denotes. -/
def accentedValue : Value := .dict [(.text [CodePoint.ofNat 0xE9], .text [CodePoint.ofNat 0x1F600])]

theorem decode_recoded_accented :
    decode (.text accented) = .ok accentedValue
      ∧ decode (.bytes [0xFF, 0xFE, 0x7B, 0, 0x22, 0, 0xE9, 0, 0x22, 0, 0x3A, 0, 0x22, 0,
        0x3D, 0xD8, 0x00, 0xDE, 0x22, 0, 0x7D, 0]) = .ok accentedValue := by
  have hdecode : decode (.text accented) = .ok accentedValue := by decide +kernel
  have hbytes := decode_recoded (t := accented) (by decide) (by decide) hdecode
    (.utf16 .little true)
  exact ⟨hdecode, hbytes.1⟩

end Metadata

end Registry
