import Registry.Proofs.Identity.Assigned
import Registry.Proofs.Repository.Effect

/-!
# Updates by whole identities

A whole identity as an update is the patch of what it supplies (`Patch.changes_ofFields`): the texts
that are not empty, the date of birth if there is one, and the metadata if there are any, the empty
ones among them. Made of an identity whose fields have been read, the patch has the very same values,
as reading them once more changes nothing. Since nothing that is supplied is stored as an empty cell,
an update by an identity empties no cell that holds something, on whatever table
(`updateWith_overwrites`).
-/

namespace Registry

/-! ## What an identity supplies -/

/-- An identity has something for a column: a text that is not empty, a date of birth, or metadata,
be they empty. -/
def Identity.supplies (i : Identity) : Column → Bool
  | .detail a => i.detail a != []
  | .dob => i.dob.isSome
  | .metadata => i.metadata.isSome
  | _ => false

theorem namedEntries_injective : Function.Injective namedEntries := by
  refine List.map_injective_iff.mpr fun e f h => ?_
  obtain ⟨hname, hvalue⟩ := Prod.mk.inj h
  exact Prod.ext (Value.text.inj hname) hvalue

/-- In the metadata of an identity that has been read no name stands twice. -/
theorem Traced.Sound.nodup_metadata {s : Traced} (h : s.Sound) :
    ∀ es ∈ s.identity.metadata, (es.map Prod.fst).Nodup := by
  intro es hes
  have hget : s.identity.get .metadata = .dict (namedEntries es) := by
    show metadataValue s.identity.metadata = _
    rw [hes]
    rfl
  have hread := h .metadata
  rw [hget] at hread
  split at hread
  · cases hread
  · rcases hread with ⟨-, hnull⟩ | ⟨entries, named, -, -, hnamed⟩
    · cases hnull
    · -- the entries are those that reading keeps: the last one of each name
      rw [namedEntries_injective (Value.dict.inj hnamed)]
      exact nodup_names_lastOfEach named

namespace Patch

variable {i : Identity} {c : Column}

theorem mem_changeable_of_supplies (h : i.supplies c = true) : c ∈ changeable := by
  cases c with
  | identityId => cases h
  | createdAt => cases h
  | detail a => cases a <;> decide
  | dob => decide
  | metadata => decide

theorem get_ne_null_of_supplies (h : i.supplies c = true) : i.get c ≠ .null := by
  cases c with
  | identityId => cases h
  | createdAt => cases h
  | detail a => exact Value.noConfusion
  | dob =>
    obtain ⟨u, hu⟩ := Option.isSome_iff_exists.mp h
    show utcValue i.dob ≠ .null
    rw [hu]
    exact Value.noConfusion
  | metadata =>
    obtain ⟨es, hes⟩ := Option.isSome_iff_exists.mp h
    show metadataValue i.metadata ≠ .null
    rw [hes]
    exact Value.noConfusion

/-- A field of the patch is that of the identity if it supplies something, and absent otherwise. -/
theorem get_ofFields (hm : ∀ es ∈ i.metadata, (es.map Prod.fst).Nodup) (hc : c ∈ changeable) :
    (ofFields i).get c = if i.supplies c then i.get c else .null := by
  cases c with
  | identityId => exact absurd hc (by decide)
  | createdAt => rfl
  | detail a =>
    show textValue (if i.detail a = [] then none else some (i.detail a))
      = if i.detail a != [] then .text (i.detail a) else .null
    by_cases h : i.detail a = []
    · rw [if_pos h, if_neg (by simp [h])]
      rfl
    · rw [if_neg h, if_pos (bne_iff_ne.mpr h)]
      rfl
  | dob =>
    show utcValue i.dob = if i.dob.isSome then utcValue i.dob else .null
    cases i.dob <;> rfl
  | metadata =>
    show metadataValue (i.metadata.map lastOfEach)
      = if i.metadata.isSome then metadataValue i.metadata else .null
    rw [map_lastOfEach_eq_self hm]
    cases i.metadata <;> rfl

/-- The changes of a whole identity are what it supplies, in canonical order, metadata last. -/
theorem changes_ofFields (hm : ∀ es ∈ i.metadata, (es.map Prod.fst).Nodup) :
    (ofFields i).changes = (changeable.filter i.supplies).map fun c => (c, i.get c) := by
  have hpresent : ∀ c ∈ changeable, ((ofFields i).get c != .null) = i.supplies c := by
    intro c hc
    rw [get_ofFields hm hc]
    cases hs : i.supplies c with
    | true => exact bne_iff_ne.mpr (get_ne_null_of_supplies hs)
    | false => rfl
  unfold changes
  show (changeable.filter _).map _ = _
  rw [List.filter_congr hpresent]
  refine List.map_congr_left fun c hc => ?_
  obtain ⟨hc, hs⟩ := List.mem_filter.mp hc
  rw [get_ofFields hm hc, if_pos hs]

theorem mem_changes_ofFields (hm : ∀ es ∈ i.metadata, (es.map Prod.fst).Nodup) :
    c ∈ (ofFields i).changes.map Prod.fst ↔ i.supplies c = true := by
  rw [changes_ofFields hm, List.map_map]
  simp only [List.mem_map, List.mem_filter, Function.comp_apply, exists_eq_right, and_iff_right_iff_imp]
  exact mem_changeable_of_supplies

theorem isEmpty_ofFields_iff (hm : ∀ es ∈ i.metadata, (es.map Prod.fst).Nodup) :
    (ofFields i).isEmpty = true ↔ ∀ c, i.supplies c = false := by
  rw [isEmpty, changes_ofFields hm, List.isEmpty_iff, List.map_eq_nil_iff, List.filter_eq_nil_iff]
  constructor
  · intro h c
    by_contra hs
    have hs := Bool.eq_true_of_not_eq_false hs
    exact h c (mem_changeable_of_supplies hs) hs
  · intro h c _
    rw [h c]
    exact Bool.false_ne_true

end Patch

/-! ## What an identity stores -/

/-- The cell holds nothing: it is null or an empty text. -/
def Cell.isVoid : Cell → Bool
  | null => true
  | text t => t.isEmpty
  | _ => false

theorem Cell.isVoid_text {t : Text} : (text t).isVoid = false ↔ t ≠ [] := List.isEmpty_eq_false_iff

/-- A row before and after it has been updated by an identity. It is the same if its id is another
one. Otherwise what the identity supplies is stored, metadata as a whole, and all other cells are
kept, the id and the time of creation among them. No cell that holds something is emptied. -/
structure Identity.Overwrites (i : Identity) (row row' : Row) : Prop where
  elsewhere : row .identityId ≠ .text i.id → row' = row
  supplied : row .identityId = .text i.id → ∀ c, i.supplies c = true →
    Patch.StorageForm c (i.get c) (row' c)
  kept : ∀ c, i.supplies c = false → row' c = row c
  id : row' .identityId = row .identityId
  createdAt : row' .createdAt = row .createdAt
  filled : ∀ c, (row c).isVoid = false → (row' c).isVoid = false

section

variable {i : Identity}

/-- What an identity supplies is not stored as nothing. -/
theorem isVoid_of_storageForm {c : Column} {cell : Cell} (hs : i.supplies c = true)
    (h : Patch.StorageForm c (i.get c) cell) : cell.isVoid = false := by
  cases c with
  | identityId => cases h
  | createdAt => cases h
  | detail a =>
    obtain ⟨t, ht, rfl⟩ := h
    obtain rfl : i.detail a = t := Value.text.inj ht
    exact Cell.isVoid_text.mpr (bne_iff_ne.mp hs)
  | dob =>
    obtain ⟨u, -, rfl⟩ := h
    have hlength := length_storedText u.date u.time
    exact Cell.isVoid_text.mpr (List.ne_nil_of_length_eq_add_one hlength)
  | metadata =>
    obtain ⟨document, hd, rfl⟩ := h
    have hmapping : (i.get .metadata).IsMapping := by
      show (metadataValue i.metadata).IsMapping
      cases i.metadata <;> trivial
    obtain ⟨x, u, rfl, -⟩ := Metadata.exists_cons_of_encode hmapping hd
    exact Cell.isVoid_text.mpr (List.cons_ne_nil x u)

theorem Patch.Writes.overwrites (hm : ∀ es ∈ i.metadata, (es.map Prod.fst).Nodup) {row row' : Row}
    (h : (ofFields i).Writes row row') (hid : row .identityId = .text i.id) :
    i.Overwrites row row' := by
  have hkept : ∀ c, i.supplies c = false → row' c = row c := by
    intro c hs
    refine h.kept c fun hc => ?_
    rw [mem_changes_ofFields hm, hs] at hc
    cases hc
  have hsupplied : ∀ c, i.supplies c = true → StorageForm c (i.get c) (row' c) := by
    intro c hs
    refine h.changed (c, i.get c) ?_
    rw [changes_ofFields hm]
    exact List.mem_map.mpr ⟨c, List.mem_filter.mpr ⟨mem_changeable_of_supplies hs, hs⟩, rfl⟩
  refine ⟨fun hne => absurd hid hne, fun _ => hsupplied, hkept, hkept _ rfl, hkept _ rfl,
    fun c hc => ?_⟩
  cases hs : i.supplies c with
  | true => exact isVoid_of_storageForm hs (hsupplied c hs)
  | false =>
    rw [hkept c hs]
    exact hc

theorem Identity.overwrites_refl {row : Row} (h : row .identityId ≠ .text i.id) :
    i.Overwrites row row :=
  ⟨fun _ => rfl, fun hid => absurd hid h, fun _ _ => rfl, rfl, rfl, fun _ h => h⟩

end

namespace Patch

/-- If a table accepts the cells of a patch, they stand in the rows of its id. -/
theorem eq_patchTable_of_assign {p : Patch} {document : Text} {t t' : Table} {count : Nat}
    (h : t.assign (textCell p.id) (p.cells document) = .ok (t', count)) :
    t' = p.patchTable document t := by
  unfold Table.assign at h
  simp only [foldl_assign_cells] at h
  split at h
  · exact (Prod.mk.inj (Except.ok.inj h)).1.symm
  · cases h

end Patch

namespace Repository

/-- An update by an identity fails and changes nothing, or overwrites the rows of its id. -/
theorem updateWith_cases {i : Identity} (hm : ∀ es ∈ i.metadata, (es.map Prod.fst).Nodup)
    (d : Database) (fault : Option FaultPoint) :
    (∃ e, updateWith d fault i = ⟨.error e, d⟩)
      ∨ ∃ t t', d = some t ∧ updateWith d fault i = ⟨.ok (), some t'⟩
        ∧ List.Forall₂ i.Overwrites t t' := by
  rw [updateWith_eq]
  refine (update_cases d fault (Patch.ofFields i)).imp_right ?_
  rintro ⟨document, t', count, hd, hstatement, hupdate⟩
  obtain ⟨t, rfl, -, hassign⟩ := statement_eq_ok.mp hstatement
  -- whatever the rows hold, a table that accepts the cells has them in the rows of the id
  obtain rfl := Patch.eq_patchTable_of_assign hassign
  refine ⟨t, _, rfl, hupdate, ?_⟩
  unfold Patch.patchTable
  rw [List.forall₂_map_right_iff, List.forall₂_same]
  intro row _
  split
  · next hid => exact (Patch.writes_patchRow hd row).overwrites hm (beq_iff_eq.mp hid)
  · next hid => exact Identity.overwrites_refl fun h => hid (beq_iff_eq.mpr h)

/-- An identity that is made of inputs and then assigned to can always be made a patch. This has its
id, and its changes are what the identity supplies: in canonical order and with the same values. It
has none exactly if the identity supplies nothing. An update by the identity, on whatever database
and with whatever fault, fails and changes nothing, or stores what the identity supplies in the rows
of its id and keeps everything else; no cell that holds something is emptied. -/
theorem updateWith_overwrites {inputs : Inputs} {s : Traced} (h : Traced.ofInputs inputs = .ok s)
    (assignments : List (Text × Value)) :
    let i := (s.assignAll assignments).identity
    ∃ p, Patch.ofIdentity i = .ok p ∧ p.id = i.id
      ∧ p.changes
        = ((Column.updatable ++ [Column.metadata]).filter i.supplies).map (fun c => (c, i.get c))
      ∧ (p.isEmpty = true ↔ ∀ c, i.supplies c = false)
      ∧ ∀ d fault, (∃ e, updateWith d fault i = ⟨.error e, d⟩)
        ∨ ∃ t t', d = some t ∧ updateWith d fault i = ⟨.ok (), some t'⟩
          ∧ List.Forall₂ i.Overwrites t t' := by
  intro i
  have hm := ((Traced.ofInputs_sound h).assignAll assignments).nodup_metadata
  exact ⟨Patch.ofFields i, Patch.ofIdentity_eq i, rfl, Patch.changes_ofFields hm,
    Patch.isEmpty_ofFields_iff hm, updateWith_cases hm⟩

/-- An id and a name. -/
def adaInputs : Inputs := [("identity_id", .text "a"), ("first_name", .text "Ada")]

/-- The identity of an id and a name. -/
def ada : Traced :=
  ⟨{ Identity.blank.withDetail .firstName "Ada" with id := "a" },
    fun c => adaInputs.get? (Text.ofString c.name)⟩

/-- A date with an offset, empty metadata, and an input that is refused. -/
def adaAssignments : List (Text × Value) :=
  [("dob", .dateTime ⟨⟨1990, 1, 1, by decide⟩, TimeOfDay.midnight, some ⟨-18000000000, by decide⟩⟩),
    ("meta_data", .dict []), ("gender", .null)]

theorem ofInputs_ada : Traced.ofInputs adaInputs = .ok ada := rfl

/-- They are written over a row with a garbled date. -/
theorem updateWith_overwrites_garbledRow :
    Traced.ofInputs adaInputs = .ok ada
      ∧ let i := (ada.assignAll adaAssignments).identity
        (∃ p, Patch.ofIdentity i = .ok p ∧ p.isEmpty = false
          ∧ p.changes = [(.detail .firstName, .text "Ada"),
            (.dob, .dateTime ⟨⟨1990, 1, 1, by decide⟩, ⟨5, 0, 0, 0, by decide⟩, some 0⟩),
            (.metadata, .dict [])])
        ∧ ∃ row', updateWith (some garbledRows) none i = ⟨.ok (), some [row', garbledNeighbour]⟩
          ∧ row' (.detail .firstName) = .text "Ada" ∧ (row' .dob).isVoid = false
          ∧ row' .createdAt = garbledRow .createdAt := by
  refine ⟨ofInputs_ada, ?_⟩
  intro i
  obtain ⟨p, hp, -, hchanges, hempty, hupdate⟩ :=
    updateWith_overwrites ofInputs_ada adaAssignments
  refine ⟨⟨p, hp, ?_, ?_⟩, ?_⟩
  · rw [Bool.eq_false_iff, Ne, hempty]
    exact fun h => absurd (h .metadata) (by decide +kernel)
  · rw [hchanges]
    decide +kernel
  · rcases hupdate (some garbledRows) none with ⟨e, hfailed⟩ | ⟨t, t', ht, hdone, hrows⟩
    · have hresult : (updateWith (some garbledRows) none i).result.isOk = true := by decide +kernel
      rw [hfailed] at hresult
      cases hresult
    · obtain rfl := Option.some.inj ht
      rw [garbledRows, List.forall₂_cons_left_iff] at hrows
      obtain ⟨row', rest, hfirst, hrows, rfl⟩ := hrows
      rw [List.forall₂_cons_left_iff] at hrows
      obtain ⟨other, rest, hsecond, hrows, rfl⟩ := hrows
      obtain rfl := List.forall₂_nil_left_iff.mp hrows
      obtain rfl := hsecond.elsewhere (by decide +kernel)
      obtain ⟨t, ht, hname⟩ := hfirst.supplied rfl (.detail .firstName) (by decide +kernel)
      obtain rfl : Text.ofString "Ada" = t := Value.text.inj ht
      exact ⟨row', hdone, hname, hfirst.filled .dob (by decide), hfirst.createdAt⟩

end Repository

end Registry
