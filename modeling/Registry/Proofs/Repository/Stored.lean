import Registry.Proofs.Repository.Listing

/-!
# Rows of identities after a run

After any run from an empty table the rows are those of identities with distinct ids that have been
created, and whose metadata and texts have been written (`run_stored`). What holds of all metadata
that the requests could write holds of theirs. So a listing after any run succeeds
(`getAll_stored`).
-/

namespace Registry

/-- The identity stands in a row: its metadata have been written, it has been created, and its texts
have been bound. -/
structure Identity.Stored (i : Identity) : Prop where
  encode : Metadata.encode (metadataValue i.metadata) = .ok i.document
  createdAt : i.createdAt.isSome = true
  encodable : i.Encodable

namespace Identity

variable {i : Identity}

theorem Stored.readsAs (h : i.Stored) : i.row.ReadsAs i.canonical :=
  ⟨_, fetch_toRow i i.document, toIdentity_storedRecord_canonical h.encode⟩

/-- A stored identity stays one when it is patched and the patch has been bound. -/
theorem Stored.patched (h : i.Stored) {p : Patch} {document : Text}
    (hd : p.document = .ok document) (hdetail : ∀ a, ∀ t ∈ p.detail a, t.NoSurrogates) :
    (i.patched p).Stored := by
  have hmetadata : ∃ t, Metadata.encode (metadataValue (i.patched p).metadata) = .ok t := by
    show ∃ t, Metadata.encode (metadataValue (p.metadata.or i.metadata)) = .ok t
    unfold Patch.document at hd
    cases hm : p.metadata with
    | none => exact ⟨_, h.encode⟩
    | some m =>
      rw [hm] at hd
      exact ⟨document, hd⟩
  obtain ⟨t, ht⟩ := hmetadata
  refine ⟨by rw [document_eq ht, ht], h.createdAt, h.encodable.id, fun a => ?_⟩
  show ((p.detail a).getD (i.detail a)).NoSurrogates
  cases ha : p.detail a with
  | none => exact h.encodable.detail a
  | some s => exact hdetail a s ha

end Identity

namespace Repository

/-! ## Tables of stored identities -/

/-- The table holds the rows of stored identities with distinct ids, and with metadata of a certain
kind. -/
def HoldsStored (P : Option Inputs → Prop) (t : Table) : Prop :=
  ∃ is : List Identity, t = is.map Identity.row ∧ (∀ i ∈ is, i.Stored ∧ P i.metadata)
    ∧ (is.map Identity.id).Nodup

variable {P : Option Inputs → Prop} {t : Table}

theorem HoldsStored.nil : HoldsStored P [] :=
  ⟨[], rfl, fun _ h => absurd h List.not_mem_nil, List.nodup_nil⟩

theorem HoldsStored.filled (h : HoldsStored P t) : ∀ row ∈ t, row.isFilled = true := by
  obtain ⟨is, rfl, hstored, -⟩ := h
  intro row hrow
  obtain ⟨i, hi, rfl⟩ := List.mem_map.mp hrow
  exact isFilled_toRow i.document (hstored i hi).1.createdAt

theorem HoldsStored.lawful (h : HoldsStored P t) : t.Lawful := by
  refine ⟨h.filled, ?_⟩
  obtain ⟨is, rfl, -, hids⟩ := h
  have hcells : (is.map Identity.row).map (fun row => row .identityId)
      = (is.map Identity.id).map Cell.text := by
    rw [List.map_map, List.map_map]
    rfl
  rw [hcells]
  exact hids.map fun _ _ => Cell.text.inj

theorem HoldsStored.insert {t' : Table} (h : HoldsStored P t) {i : Identity} {document : Text}
    (hd : Metadata.encode (metadataValue i.metadata) = .ok document) (hP : P i.metadata)
    (hcreated : i.createdAt.isSome = true)
    (hbind : bindError? (Column.all.map (i.toRow document)) = none)
    (hinsert : t.insert (i.toRow document) = .ok t') : HoldsStored P t' := by
  obtain ⟨is, rfl, hstored, hids⟩ := h
  obtain ⟨-, hid, rfl⟩ := Table.insert_eq_ok hinsert
  rw [converted_toRow] at hid
  have hi : i.Stored := by
    refine ⟨?_, hcreated, (Identity.bindError?_toRow_iff hd).mp hbind⟩
    rw [hd, Identity.document_eq hd]
  have hnew : i.id ∉ is.map Identity.id := by
    intro hmem
    obtain ⟨j, hj, he⟩ := List.mem_map.mp hmem
    refine hid (List.mem_map.mpr ⟨j.row, List.mem_map_of_mem hj, ?_⟩)
    exact congrArg Cell.text he
  refine ⟨is ++ [i], ?_,
    List.forall_mem_append.mpr ⟨hstored, List.forall_mem_singleton.mpr ⟨hi, hP⟩⟩,
    nodup_map_append_singleton hids hnew⟩
  rw [List.map_append, List.map_singleton, converted_toRow, Identity.row, Identity.document_eq hd]

theorem HoldsStored.patch (h : HoldsStored P t) {p : Patch} {document : Text}
    (hd : p.document = .ok document) (hP : p.metadata.isSome = true → P p.metadata)
    (hdetail : ∀ a, ∀ t ∈ p.detail a, t.NoSurrogates) :
    HoldsStored P (p.patchTable document t) := by
  obtain ⟨is, rfl, hstored, hids⟩ := h
  have hpatched (i : Identity) (hi : i ∈ is) : (i.patched p).Stored ∧ P (i.patched p).metadata := by
    refine ⟨(hstored i hi).1.patched hd hdetail, ?_⟩
    show P (p.metadata.or i.metadata)
    cases hm : p.metadata with
    | none => exact (hstored i hi).2
    | some m =>
      rw [hm] at hP
      exact hP rfl
  refine ⟨patchIdentities p is, patchTable_map_row hd is, fun j hj => ?_, ?_⟩
  · obtain ⟨i, hi, rfl⟩ := List.mem_map.mp hj
    show Identity.Stored (if i.id = p.id then i.patched p else i)
      ∧ P (if i.id = p.id then i.patched p else i).metadata
    split
    · exact hpatched i hi
    · exact hstored i hi
  · rw [map_id_patchIdentities]
    exact hids

theorem HoldsStored.erase (h : HoldsStored P t) (id : Text) :
    HoldsStored P (t.erase (textCell id)).1 := by
  obtain ⟨is, rfl, hstored, hids⟩ := h
  exact ⟨is.filter fun i => i.id != id, erase_map_row is id,
    fun i hi => hstored i (List.mem_filter.mp hi).1, hids.sublist (List.filter_sublist.map _)⟩

/-! ## Steps and runs -/

/-- The metadata that a request has to write. -/
def Request.metadata : Request → Option Inputs
  | .create _ _ i => i.metadata
  | .patch p => p.metadata
  | .update i => (Patch.ofFields i).metadata
  | _ => none

theorem update_stored (h : HoldsStored P t) (fault : Option FaultPoint) {p : Patch}
    (hP : HasDocument p.metadata → P p.metadata) :
    ∃ t', (update (some t) fault p).database = some t' ∧ HoldsStored P t' := by
  rcases update_cases (some t) fault p with ⟨e, he⟩ | ⟨document, t', count, hd, hs, he⟩
  · rw [he]
    exact ⟨t, rfl, h⟩
  · obtain ⟨_, ⟨⟩, hbind, hassign⟩ := statement_eq_ok.mp hs
    rw [Patch.assign_cells p document h.filled] at hassign
    obtain ⟨rfl, -⟩ := Prod.mk.inj (Except.ok.inj hassign)
    rw [he]
    exact ⟨_, rfl, h.patch hd (fun _ => hP (exists_document_iff.mp ⟨document, hd⟩))
      ((bindError?_cells_iff hd).mp hbind).2⟩

/-- Answering a request leaves a table of stored identities. -/
theorem step_stored (h : HoldsStored P t) (r : Repository) (fault : Option FaultPoint)
    {q : Request} (hP : HasDocument q.metadata → P q.metadata) :
    ∃ t', (r.step (some t) fault q).2 = some t' ∧ HoldsStored P t' := by
  cases q with
  | create random now i =>
    show ∃ t', (create (some t) fault random now i).database = some t' ∧ _
    rcases create_cases (some t) fault random now i with
      ⟨e, he⟩ | ⟨document, u, t', hd, -, hins, he⟩
    · rw [he]
      exact ⟨t, rfl, h⟩
    · obtain ⟨_, ⟨⟩, hbind, hinsert⟩ := insertion_eq_ok.mp hins
      rw [he]
      exact ⟨t', rfl, h.insert (i := created random u i) hd (hP ⟨document, hd⟩) rfl hbind hinsert⟩
  | get elapsed id => exact ⟨t, rfl, h⟩
  | getAll => exact ⟨t, rfl, h⟩
  | patch p => exact update_stored h fault hP
  | update i =>
    show ∃ t', (updateWith (some t) fault i).database = some t' ∧ _
    rw [updateWith_eq]
    exact update_stored h fault hP
  | delete id =>
    show ∃ t', (delete (some t) fault id).database = some t' ∧ _
    unfold delete
    rcases modify_cases (some t) fault "Failed to delete identity" id [textCell id]
        (fun t => .ok (t.erase (textCell id))) with ⟨e, he⟩ | ⟨t', count, hs, -, he⟩
    · rw [he]
      exact ⟨t, rfl, h⟩
    · obtain ⟨_, ⟨⟩, -, herase⟩ := statement_eq_ok.mp hs
      obtain ⟨rfl, -⟩ := Prod.mk.inj (Except.ok.inj herase)
      rw [he]
      exact ⟨_, rfl, h.erase id⟩

theorem run_stored (h : HoldsStored P t) (r : Repository) {calls : List Call}
    (hP : ∀ call ∈ calls, HasDocument call.2.metadata → P call.2.metadata) :
    ∃ t', (r.run (some t) calls).2 = some t' ∧ HoldsStored P t' := by
  induction calls generalizing t with
  | nil => exact ⟨t, rfl, h⟩
  | cons call rest ih =>
    obtain ⟨fault, q⟩ := call
    obtain ⟨t', ht', h'⟩ := step_stored h r fault (hP _ List.mem_cons_self)
    rw [run_cons, ht']
    exact ih h' fun call hcall => hP call (List.mem_cons_of_mem _ hcall)

/-! ## Listing a table of stored identities -/

/-- All rows of stored identities are listed, those with the latest time of creation first. -/
theorem getAll_stored {is : List Identity} (h : ∀ i ∈ is, i.Stored) :
    getAll (some (is.map Identity.row)) none = .ok ((latestCreated is).map Identity.canonical) := by
  rw [getAll_eq_ok_iff, latestFirst_map_row fun i hi => (h i hi).createdAt,
    List.forall₂_map_left_iff, List.forall₂_map_right_iff, List.forall₂_same]
  intro i hi
  exact (h i ((latestCreated_perm is).mem_iff.mp hi)).readsAs

end Repository

end Registry
