import Registry.Proofs.Repository.Existence

/-!
# What an update writes

A statement that finds the row of its id puts each new value, in the form in which it is stored,
into its own column, and every other cell keeps what it has, whatever that is: no date is read and
no document is looked at. The other rows stay as they are (`update_effect`).
-/

namespace Registry

namespace Patch

/-- What a column holds after it has been given a value: a text as it stands, a reading at UTC as a
text without offset, metadata as their document. No other column is given values. -/
def StorageForm : Column → Value → Cell → Prop
  | .detail _, v, cell => ∃ t, v = .text t ∧ cell = .text t
  | .dob, v, cell =>
    ∃ u : UtcTime, v = .dateTime u.toDateTime ∧ cell = .text (storedText u.date u.time)
  | .metadata, v, cell => ∃ document, Metadata.encode v = .ok document ∧ cell = .text document
  | _, _, _ => False

theorem storageForm_of_cell? {p : Patch} {document : Text} (hd : p.document = .ok document)
    {c : Column} {cell : Cell} (h : p.cell? document c = some cell) :
    StorageForm c (p.get c) cell := by
  cases c with
  | identityId => cases h
  | createdAt => cases h
  | detail a =>
    obtain ⟨t, ht, rfl⟩ := Option.map_eq_some_iff.mp h
    exact ⟨t, congrArg textValue ht, rfl⟩
  | dob =>
    obtain ⟨u, hu, rfl⟩ := Option.map_eq_some_iff.mp h
    exact ⟨u, congrArg utcValue hu, rfl⟩
  | metadata =>
    obtain ⟨m, hm, rfl⟩ := Option.map_eq_some_iff.mp h
    rw [Patch.document, hm] at hd
    refine ⟨document, ?_, rfl⟩
    show Metadata.encode (metadataValue p.metadata) = .ok document
    rw [hm]
    exact hd

/-- A column is changed exactly if the patch has a cell for it. -/
theorem mem_map_fst_changes_iff {p : Patch} (document : Text) {c : Column} :
    c ∈ p.changes.map Prod.fst ↔ ∃ cell, p.cell? document c = some cell := by
  rw [List.mem_map]
  constructor
  · rintro ⟨change, hchange, rfl⟩
    obtain ⟨hc, hne, -⟩ := Repository.mem_changes.mp hchange
    rw [Repository.boundCell_change p document hc, if_neg hne]
    exact ⟨_, rfl⟩
  · rintro ⟨cell, hcell⟩
    have hc : c ∈ changeable := by
      by_contra hnot
      rw [cell?_of_not_changeable hnot] at hcell
      cases hcell
    have hne : p.get c ≠ .null := by
      intro hnull
      rw [Repository.boundCell_change p document hc, if_pos hnull] at hcell
      cases hcell
    exact ⟨(c, p.get c), Repository.mem_changes.mpr ⟨hc, hne, rfl⟩, rfl⟩

/-- The row of a patch before and after: the new values are stored, every other cell is kept. -/
structure Writes (p : Patch) (row row' : Row) : Prop where
  changed : ∀ change ∈ p.changes, StorageForm change.1 change.2 (row' change.1)
  kept : ∀ c, c ∉ p.changes.map Prod.fst → row' c = row c

theorem writes_patchRow {p : Patch} {document : Text} (hd : p.document = .ok document) (row : Row) :
    p.Writes row (p.patchRow document row) := by
  constructor
  · intro change hchange
    obtain ⟨cell, hcell⟩ := (mem_map_fst_changes_iff document).mp (List.mem_map_of_mem hchange)
    rw [patchRow, hcell, Option.getD_some, (Repository.mem_changes.mp hchange).2.2]
    exact storageForm_of_cell? hd hcell
  · intro c hc
    rw [mem_map_fst_changes_iff document] at hc
    rw [patchRow, Option.eq_none_iff_forall_ne_some.mpr fun cell h => hc ⟨cell, h⟩,
      Option.getD_none]

/-- No patch changes the id or the time of creation. -/
theorem not_mem_changes (p : Patch) :
    .identityId ∉ p.changes.map Prod.fst ∧ .createdAt ∉ p.changes.map Prod.fst := by
  constructor
  · rw [mem_map_fst_changes_iff []]
    rintro ⟨cell, hcell⟩
    cases hcell
  · rw [mem_map_fst_changes_iff []]
    rintro ⟨cell, hcell⟩
    cases hcell

end Patch

namespace Repository

/-- On every lawful table that has the id, whatever else it holds, an update of some field whose
texts can be bound and whose metadata have a document succeeds. In the row of the id it stores the
new values and keeps all other cells, the id and the time of creation among them; every other row is
the same, and there are as many rows as before. -/
theorem update_effect {t : Table} (ht : t.Lawful) {p : Patch}
    (hrow : ∃ row ∈ t, row .identityId = .text p.id) (hp : ¬p.NoFields)
    (hd : HasDocument p.metadata) (hid : p.id.NoSurrogates)
    (hdetail : ∀ a, ∀ s ∈ p.detail a, s.NoSurrogates) :
    ∃ t', update (some t) none p = ⟨.ok (), some t'⟩
      ∧ List.Forall₂ (fun row row' =>
          (row .identityId = .text p.id → p.Writes row row')
            ∧ (row .identityId ≠ .text p.id → row' = row)) t t'
      ∧ t'.length = t.length
      ∧ .identityId ∉ p.changes.map Prod.fst ∧ .createdAt ∉ p.changes.map Prod.fst := by
  obtain ⟨document, hd⟩ := exists_document_iff.mpr hd
  have hupdate := update_some ht.filled hd hp hid hdetail
  rw [if_pos (hasId_textCell_iff.mpr hrow)] at hupdate
  refine ⟨p.patchTable document t, hupdate, ?_, List.length_map _, p.not_mem_changes⟩
  unfold Patch.patchTable
  rw [List.forall₂_map_right_iff, List.forall₂_same]
  intro row _
  have hfound : (row .identityId == textCell p.id) = true ↔ row .identityId = .text p.id :=
    beq_iff_eq
  constructor
  · intro hid
    rw [if_pos (hfound.mpr hid)]
    exact Patch.writes_patchRow hd row
  · intro hid
    rw [if_neg (mt hfound.mp hid)]

/-- A second row with the same garbled date. -/
def garbledNeighbour : Row := fun c => if c = .identityId then .text "b" else garbledRow c

/-- A table of both. -/
def garbledRows : Table := [garbledRow, garbledNeighbour]

theorem lawful_garbledRows : garbledRows.Lawful := by
  constructor
  · intro row hrow
    rcases List.mem_pair.mp hrow with rfl | rfl
    · exact isFilled_garbledRow
    · decide
  · decide

/-- The garbled date of a row is kept while its metadata are set, and the row beside it is the
same. -/
theorem update_effect_garbledRow :
    ∃ row', update (some garbledRows) none (verified "a")
        = ⟨.ok (), some [row', garbledNeighbour]⟩
      ∧ row' .dob = .text "garbage"
      ∧ row' .metadata = .text (Text.ofString "\x7b\"verified\": true\x7d") := by
  have hfound : ∃ row ∈ garbledRows, row .identityId = .text (verified "a").id :=
    ⟨garbledRow, List.mem_cons_self, rfl⟩
  have hencode : Metadata.encode (metadataValue (verified "a").metadata)
      = .ok (Text.ofString "\x7b\"verified\": true\x7d") := by decide +kernel
  obtain ⟨t', hupdate, hrows, -⟩ := update_effect lawful_garbledRows hfound (fun h => nomatch h.2.2)
    ⟨_, hencode⟩ (by decide) fun a t ht => nomatch ht
  rw [garbledRows, List.forall₂_cons_left_iff] at hrows
  obtain ⟨row', rest, ⟨hchanged, -⟩, hrows, rfl⟩ := hrows
  rw [List.forall₂_cons_left_iff] at hrows
  obtain ⟨other, rest, ⟨-, hother⟩, hrows, rfl⟩ := hrows
  obtain rfl := List.forall₂_nil_left_iff.mp hrows
  obtain rfl := hother (by decide)
  have hwrites := hchanged rfl
  obtain ⟨document, hd, hcell⟩ :=
    hwrites.changed (.metadata, metadataValue (verified "a").metadata) (by decide)
  rw [hencode] at hd
  cases hd
  exact ⟨row', hupdate, hwrites.kept .dob (by decide), hcell⟩

/-- A patch with a surrogate in a text of its own does not succeed on the same table, although it
can be made and a row has its id. -/
theorem not_update_surrogatePatch :
    Patch.ofInputs [(Text.ofString "identity_id", .text "a"),
        (Text.ofString "first_name", .text [CodePoint.ofNat 0xD800])] = .ok (surrogatePatch "a")
      ∧ ¬(surrogatePatch "a").NoFields ∧ HasDocument (surrogatePatch "a").metadata
      ∧ garbledRows.Lawful
      ∧ (∃ row ∈ garbledRows, row .identityId = .text (surrogatePatch "a").id)
      ∧ ∀ d, update (some garbledRows) none (surrogatePatch "a") ≠ ⟨.ok (), d⟩ := by
  have hsome : ¬(surrogatePatch "a").NoFields := fun h => Option.some_ne_none _ (h.1 .firstName)
  refine ⟨rfl, hsome, ⟨Text.ofString "null", rfl⟩, lawful_garbledRows,
    ⟨garbledRow, List.mem_cons_self, rfl⟩, fun d hupdate => ?_⟩
  have hfailed : (update (some garbledRows) none (surrogatePatch "a")).result
      = .error (.escaped (.unencodable ⟨0, 0, CodePoint.ofNat 0xD800⟩)) := rfl
  rw [hupdate] at hfailed
  cases hfailed

end Repository

end Registry
