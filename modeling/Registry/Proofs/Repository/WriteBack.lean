import Registry.Proofs.Repository.Stored

/-!
# Writing back what was read

After any run from an empty table the rows are those of identities that have been written
(`Identity.Written`). Such a row is read as its identity with the metadata in canonical form, and an
update with that changes no cell of it: empty texts are no fields, dates are written as they were,
and so is the document, if no mapping in the metadata had two keys with one text
(`HoldsWritten.step_update_get`).
-/

namespace Registry

/-! ## Identities that have been written -/

/-- The identity stands in a row: its metadata have been written, no mapping in them has two keys
with one text, it has been created, and its texts have been bound. -/
structure Identity.Written (i : Identity) : Prop where
  encode : Metadata.encode (metadataValue i.metadata) = .ok i.document
  distinct : (metadataValue i.metadata).DistinctKeys
  createdAt : i.createdAt.isSome = true
  encodable : i.Encodable

namespace Identity

variable {i : Identity}

theorem written_iff : i.Written ↔ i.Stored ∧ (metadataValue i.metadata).DistinctKeys := by
  constructor
  · intro h
    exact ⟨⟨h.encode, h.createdAt, h.encodable⟩, h.distinct⟩
  · rintro ⟨h, hk⟩
    exact ⟨h.encode, hk, h.createdAt, h.encodable⟩

theorem Written.readsAs (h : i.Written) : i.row.ReadsAs i.canonical :=
  (written_iff.mp h).1.readsAs

/-- The metadata of a written identity are written again as they were. -/
theorem Written.document_canonical (h : i.Written) {m : Inputs} (hm : i.metadata = some m) :
    Metadata.encode (metadataValue (some m.canonical)) = .ok i.document := by
  have hencode := Metadata.encode_canonical h.encode h.distinct
  rwa [canonical_metadataValue, hm] at hencode

theorem metadata_ofFields_canonical (i : Identity) :
    (Patch.ofFields i.canonical).metadata = i.metadata.map Inputs.canonical :=
  map_lastOfEach_canonical i.metadata

/-! ## Patches of what is read -/

/-- No field of the identity can be updated from: its texts are empty, and it has neither a date of
birth nor metadata. -/
def IsVoid (i : Identity) : Prop :=
  (∀ a, i.detail a = []) ∧ i.dob = none ∧ i.metadata = none

theorem noFields_ofFields_iff : (Patch.ofFields i).NoFields ↔ i.IsVoid := by
  unfold Patch.NoFields IsVoid
  refine and_congr (forall_congr' fun a => ?_) (and_congr Iff.rfl Option.map_eq_none_iff)
  show (if i.detail a = [] then none else some (i.detail a)) = none ↔ i.detail a = []
  split
  · next h => exact iff_of_true rfl h
  · next h => exact iff_of_false (Option.some_ne_none _) h

/-- The patch that a written identity is after it has been read has its document. -/
theorem Written.exists_document (h : i.Written) :
    ∃ document, (Patch.ofFields i.canonical).document = .ok document
      ∧ (i.metadata.isSome = true → document = i.document) := by
  unfold Patch.document
  rw [metadata_ofFields_canonical]
  cases hm : i.metadata with
  | none => exact ⟨[], rfl, fun h => absurd h Bool.false_ne_true⟩
  | some m => exact ⟨i.document, h.document_canonical hm, fun _ => rfl⟩

/-- A patch of what is read puts the cells into the row that are there. -/
theorem patchRow_ofFields_canonical {document : Text}
    (hd : i.metadata.isSome = true → document = i.document) :
    (Patch.ofFields i.canonical).patchRow document i.row = i.row := by
  funext c
  unfold Patch.patchRow
  cases c with
  | identityId => rfl
  | createdAt => rfl
  | detail a =>
    show ((if i.detail a = [] then none else some (i.detail a)).map Cell.text).getD
      (.text (i.detail a)) = .text (i.detail a)
    split
    · rfl
    · rfl
  | dob =>
    show (i.dob.map fun u => utcCell (some u)).getD (utcCell i.dob) = utcCell i.dob
    cases i.dob with
    | none => rfl
    | some u => rfl
  | metadata =>
    show ((Patch.ofFields i.canonical).metadata.map fun _ => Cell.text document).getD
      (.text i.document) = .text i.document
    rw [metadata_ofFields_canonical]
    cases hm : i.metadata with
    | none => rfl
    | some m =>
      rw [hm] at hd
      rw [hd rfl]
      rfl

end Identity

theorem Patch.patchTable_eq_self {p : Patch} {document : Text} {t : Table}
    (h : ∀ row ∈ t, row .identityId = textCell p.id → p.patchRow document row = row) :
    p.patchTable document t = t := by
  unfold patchTable
  conv_rhs => rw [← List.map_id t]
  refine List.map_congr_left fun row hrow => ?_
  show (if row .identityId == textCell p.id then p.patchRow document row else row) = row
  split
  · next hid => exact h row hrow (eq_of_beq hid)
  · rfl

namespace Repository

/-! ## Tables of written identities -/

/-- The table holds the rows of written identities with distinct ids. -/
def HoldsWritten (t : Table) : Prop :=
  ∃ is : List Identity, t = is.map Identity.row ∧ (∀ i ∈ is, i.Written) ∧ (is.map Identity.id).Nodup

theorem holdsWritten_iff {t : Table} :
    HoldsWritten t ↔ HoldsStored (fun m => (metadataValue m).DistinctKeys) t := by
  unfold HoldsWritten HoldsStored
  simp only [Identity.written_iff]

theorem HoldsWritten.lawful {t : Table} (h : HoldsWritten t) : t.Lawful :=
  (holdsWritten_iff.mp h).lawful

/-! ## Steps and runs -/

/-- If the metadata of a request can be written, no mapping in them has two keys with one text. -/
def Request.HasDistinctKeys (q : Request) : Prop :=
  HasDocument q.metadata → (metadataValue q.metadata).DistinctKeys

theorem run_written (r : Repository) {calls : List Call}
    (hcalls : ∀ call ∈ calls, call.2.HasDistinctKeys) :
    ∃ t, (r.run (some []) calls).2 = some t ∧ HoldsWritten t := by
  obtain ⟨t, ht, h⟩ :=
    run_stored (P := fun m => (metadataValue m).DistinctKeys) .nil r hcalls
  exact ⟨t, ht, holdsWritten_iff.mpr h⟩

/-! ## Reading and writing back -/

theorem detail_of_mem_ofFields {i : Identity} {a : Detail} {t : Text}
    (h : t ∈ (Patch.ofFields i).detail a) : t = i.detail a := by
  have h : (if i.detail a = [] then none else some (i.detail a)) = some t := h
  split at h
  · cases h
  · exact (Option.some.inj h).symm

/-- An update with a written identity as it is read leaves the table as it is. -/
theorem update_canonical {is : List Identity} (hwritten : ∀ i ∈ is, i.Written)
    (hids : (is.map Identity.id).Nodup) {i : Identity} (hi : i ∈ is) (hv : ¬i.canonical.IsVoid) :
    update (some (is.map Identity.row)) none (Patch.ofFields i.canonical)
      = ⟨.ok (), some (is.map Identity.row)⟩ := by
  have htable : HoldsWritten (is.map Identity.row) := ⟨is, rfl, hwritten, hids⟩
  obtain ⟨document, hd, hdocument⟩ := (hwritten i hi).exists_document
  -- texts that have been bound once can be bound again
  have hdetail : ∀ a, ∀ t ∈ (Patch.ofFields i.canonical).detail a, t.NoSurrogates := by
    intro a t ht
    rw [detail_of_mem_ofFields ht]
    exact (hwritten i hi).encodable.detail a
  -- the ids are distinct, so the only row the patch applies to is the one that has been read
  have hsame : (Patch.ofFields i.canonical).patchTable document (is.map Identity.row)
      = is.map Identity.row := by
    refine Patch.patchTable_eq_self fun row hrow hid => ?_
    obtain ⟨j, hj, rfl⟩ := List.mem_map.mp hrow
    obtain rfl := List.inj_on_of_nodup_map hids hj hi (Cell.text.inj hid)
    exact Identity.patchRow_ofFields_canonical hdocument
  have hhas : Table.hasId (is.map Identity.row) (textCell i.id) = true :=
    Table.hasId_iff.mpr (List.mem_map.mpr ⟨i.row, List.mem_map_of_mem hi, rfl⟩)
  rw [update_some htable.lawful.filled hd (mt Identity.noFields_ofFields_iff.mp hv)
    (hwritten i hi).encodable.id hdetail, hsame]
  exact if_pos hhas

/-- What is read of a row of a table of written identities can be written back, unless there is
nothing to update from; the table stays as it is. -/
theorem HoldsWritten.step_update_get {t : Table} (h : HoldsWritten t) {r : Repository}
    {elapsed : Nat} (hr : r.InTime elapsed) {row : Row} (hrow : row ∈ t) :
    ∃ id i, row .identityId = .text id
      ∧ r.step (some t) none (.get elapsed id) = (.identity i, some t)
      ∧ (i.IsVoid → r.step (some t) none (.update i)
        = (.failed (.classified (Failure.badRequest "No fields provided for update")), some t))
      ∧ (¬i.IsVoid → r.step (some t) none (.update i) = (.done, some t)) := by
  have hlawful := h.lawful
  obtain ⟨is, rfl, hwritten, hids⟩ := h
  obtain ⟨i, hi, rfl⟩ := List.mem_map.mp hrow
  have hget : (r.step (some (is.map Identity.row)) none (.get elapsed i.id)).1
      = .identity i.canonical :=
    (step_get_eq_identity_iff hlawful hr hrow rfl (hwritten i hi).encodable.id).mpr
      (hwritten i hi).readsAs
  refine ⟨i.id, i.canonical, rfl, Prod.ext hget rfl, fun hv => ?_, fun hv => ?_⟩
  · rw [step, updateWith_eq, update_of_noFields _ _ (Identity.noFields_ofFields_iff.mpr hv)]
    rfl
  · rw [step, updateWith_eq, update_canonical hwritten hids hi hv]
    rfl

/-- After any run from an empty table whose metadata, where they can be written, have no mapping
with two keys of one text: what is read of any row can be written back, unless all its texts are
empty and it has neither a date of birth nor metadata, and the table stays as it is. -/
theorem run_update_get {r : Repository} {calls : List Call}
    (hcalls : ∀ call ∈ calls, call.2.HasDistinctKeys) {elapsed : Nat} (hr : r.InTime elapsed) :
    ∃ t : Table, (r.run (some []) calls).2 = some t ∧ ∀ row ∈ t, ∃ id i,
      row .identityId = .text id
        ∧ r.step (some t) none (.get elapsed id) = (.identity i, some t)
        ∧ (i.IsVoid → r.step (some t) none (.update i)
          = (.failed (.classified (Failure.badRequest "No fields provided for update")), some t))
        ∧ (¬i.IsVoid → r.step (some t) none (.update i) = (.done, some t)) := by
  obtain ⟨t, ht, hwritten⟩ := run_written r hcalls
  exact ⟨t, ht, fun row hrow => hwritten.step_update_get hr hrow⟩

/-- An identity with metadata that are read back in another form: they have a tuple, keys that are
no texts, and two surrogates that are a pair. -/
def annotated : Identity :=
  { named "Ada" with
    metadata := some [("scores", .tuple [.int 1, .null]),
      ("marks", .dict [(.int 7, .text [CodePoint.ofNat 0xD83D, CodePoint.ofNat 0xDE00]),
        (.bool true, .null)])] }

def annotatedDocument : Text :=
  Text.ofString "\x7b\"scores\": [1, null], \"marks\": "
    ++ Text.ofString "\x7b\"7\": \"\\ud83d\\ude00\", \"true\": null\x7d\x7d"

/-- The table after the identity has been created. -/
def annotatedTable : Table := [(created [] morningUtc annotated).row]

theorem run_update_get_annotated :
    (plainRepository.run (some []) [(none, .create [] morning annotated)]).2 = some annotatedTable
      ∧ ∃ id i, plainRepository.step (some annotatedTable) none (.get 250 id)
          = (.identity i, some annotatedTable)
        ∧ (plainRepository.step (some annotatedTable) none (.update i)).2
          = some annotatedTable := by
  have hencode : Metadata.encode (metadataValue annotated.metadata) = .ok annotatedDocument := by
    decide +kernel
  have htexts : ∀ a, (annotated.detail a).NoSurrogates := detail_named_noSurrogates (by decide)
  have hcalls : ∀ call ∈ [((none, .create [] morning annotated) : Call)],
      call.2.HasDistinctKeys := by
    intro call hcall _
    rw [List.mem_singleton.mp hcall]
    have hscores : Value.DistinctKeys (.tuple [.int 1, .null]) := ⟨trivial, trivial, trivial⟩
    exact ⟨by decide +kernel, hscores, ⟨by decide +kernel, trivial, trivial, trivial⟩, trivial⟩
  have hcreate : (plainRepository.run (some []) [(none, .create [] morning annotated)]).2
      = some annotatedTable := by
    have h : create (some ([].map Identity.row)) none [] morning annotated
        = ⟨.ok (created [] morningUtc annotated), some annotatedTable⟩ :=
      create_map_row toUtc?_morning hencode (by decide) htexts List.not_mem_nil
    exact congrArg Outcome.database h
  obtain ⟨t, ht, hrows⟩ := run_update_get hcalls plainRepository_inTime
  obtain rfl := Option.some.inj (hcreate.symm.trans ht)
  obtain ⟨id, i, -, hget, hvoid, hdone⟩ := hrows _ (List.mem_singleton.mpr rfl)
  refine ⟨hcreate, id, i, hget, ?_⟩
  by_cases h : i.IsVoid
  · rw [hvoid h]
  · rw [hdone h]

end Repository

end Registry
