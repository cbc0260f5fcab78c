import Registry.Proofs.Repository.Kept
import Registry.Proofs.Repository.Lawful

/-!
# Requests for one id

Reading, patching and deleting are for the rows of one id. They are worked out here for any table
whose columns are filled, where nothing fails from outside: the id and the texts can be bound, and
a read has a deadline that the server can be told. Whether the table has the id decides what is
answered; a patch and a deletion look at nothing else, a read then looks at the row.
-/

namespace Registry

def Patch.NoFields (p : Patch) : Prop := (∀ a, p.detail a = none) ∧ p.dob = none ∧ p.metadata = none

theorem Table.matching_eq_nil_iff {t : Table} {id : Cell} :
    t.matching id = [] ↔ t.hasId id = false := by
  unfold Table.matching Table.hasId
  rw [List.filter_eq_nil_iff, List.any_eq_false]

namespace Repository

/-! ## Reading -/

/-- Reads can begin: the bound gives a deadline, and the server can be told it. -/
structure Ready (r : Repository) : Prop where
  bounded : r.readTimeout.refusal? = none
  told : ∃ statements, r.readTimeout.statements r.dialect = .ok statements

theorem query_eq_ok_iff {d : Database} {fault : Option FaultPoint} {id : Text} {rows : Table} :
    query d fault id = .ok rows ↔ fault ≠ some .query ∧ id.NoSurrogates
      ∧ ∃ t, d = some t ∧ Table.matching t (textCell id) = rows := by
  unfold query
  rw [← EncodeError.of?_eq_none_iff]
  by_cases hq : fault = some .query
  · simp [hq]
  cases d with
  | none => simp [hq, Database.table]
  | some t => cases EncodeError.of? id <;> simp [hq, Database.table]

/-- A read that has a deadline and that nothing disturbs gives what is read before the commit. -/
theorem getById_result {r : Repository} (h : r.readTimeout.refusal? = none) (d : Database)
    (elapsed : Nat) (id : Text) :
    (r.getById d none elapsed id).result = r.readId d none elapsed id := by
  unfold getById
  simp only [h, reduceCtorEq, if_false]
  cases r.readId d none elapsed id with
  | error e => cases e <;> rfl
  | ok i => rfl

theorem readRow_eq (r : Repository) (elapsed : Nat) (row : Row) :
    r.readRow elapsed row =
      match row.fetch with
      | .error c => .error c
      | .ok record =>
        match record.toIdentity with
        | .error c => .error c
        | .ok i =>
          match r.readTimeout.isExceededBy elapsed with
          | .error e => .error (.refused e)
          | .ok exceeded =>
            if exceeded then .error (.timeout r.readTimeout.exceededMessage) else .ok i := by
  unfold readRow
  simp only [bind, Except.bind]
  cases row.fetch with
  | error c => rfl
  | ok record =>
    simp only
    cases record.toIdentity with
    | error c => rfl
    | ok i =>
      simp only
      cases r.readTimeout.isExceededBy elapsed with
      | error e => rfl
      | ok exceeded => rfl

/-- A read is answered by the first row of the id. -/
theorem readId_some {r : Repository} (h : r.Ready) (t : Table) (elapsed : Nat) {id : Text}
    (hid : id.NoSurrogates) :
    r.readId (some t) none elapsed id
      = match t.matching (textCell id) with
        | [] => .error (.classified (Failure.notFound id))
        | row :: _ => (r.readRow elapsed row).mapError readError := by
  obtain ⟨statements, hs⟩ := h.told
  have hquery : query (some t) none id = .ok (t.matching (textCell id)) :=
    query_eq_ok_iff.mpr ⟨nofun, hid, t, rfl, rfl⟩
  unfold readId
  rw [hs, hquery]
  cases t.matching (textCell id) with
  | nil => rfl
  | cons row rest => rfl

/-! ## Statements -/

/-- A statement on the rows of an id that is not refused succeeds on a table that has the id. -/
theorem modify_some {t t' : Table} {message : String} {id : Text} {cells : List Cell}
    {f : Table → Except DatabaseFault (Table × Nat)} (hbind : bindError? cells = none)
    (hf : f t = .ok (t', (t.matching (textCell id)).length)) :
    modify (some t) none message id cells f
      = if t.hasId (textCell id) then ⟨.ok (), some t'⟩
        else ⟨.error (.classified (Failure.notFound id)), some t⟩ := by
  have hstatement := (statement_eq_ok (d := some t)).mpr ⟨t, rfl, hbind, hf⟩
  rw [modify_eq, hstatement]
  simp only [reduceCtorEq, if_false, List.length_eq_zero_iff, Table.matching_eq_nil_iff]
  cases t.hasId (textCell id) with
  | false => rfl
  | true => rfl

theorem bindError?_textCell {id : Text} : bindError? [textCell id] = none ↔ id.NoSurrogates := by
  simp [Identity.bindError?_eq_none_iff, textCell]

/-- A deletion succeeds on a table that has the id. -/
theorem delete_some (t : Table) {id : Text} (hid : id.NoSurrogates) :
    delete (some t) none id
      = if t.hasId (textCell id) then ⟨.ok (), some (t.erase (textCell id)).1⟩
        else ⟨.error (.classified (Failure.notFound id)), some t⟩ :=
  modify_some (bindError?_textCell.mpr hid) rfl

/-! ## Patches -/

theorem cells_eq_nil_iff (p : Patch) (document : Text) : p.cells document = [] ↔ p.NoFields := by
  unfold Patch.cells
  rw [List.filterMap_eq_nil_iff]
  simp only [Option.map_eq_none_iff]
  constructor
  · intro h
    refine ⟨fun a => ?_, ?_, ?_⟩
    · exact Option.map_eq_none_iff.mp (h (.detail a) (by cases a <;> decide))
    · exact Option.map_eq_none_iff.mp (h .dob (by decide))
    · exact Option.map_eq_none_iff.mp (h .metadata (by decide))
  · rintro ⟨hdetail, hdob, hmeta⟩ c _
    cases c with
    | detail a => exact Option.map_eq_none_iff.mpr (hdetail a)
    | dob => exact Option.map_eq_none_iff.mpr hdob
    | metadata => exact Option.map_eq_none_iff.mpr hmeta
    | _ => rfl

theorem document_isPrintable {p : Patch} {document : Text} (h : p.document = .ok document) :
    document.IsPrintable := by
  unfold Patch.document at h
  cases hm : p.metadata with
  | none =>
    rw [hm] at h
    cases h
    exact fun c hc => absurd hc List.not_mem_nil
  | some m =>
    rw [hm] at h
    exact Metadata.encode_isPrintable h

theorem mem_map_cells_iff {p : Patch} {document : Text} {cell : Cell} :
    cell ∈ (p.cells document).map Prod.snd ↔ ∃ c, p.cell? document c = some cell := by
  constructor
  · intro h
    obtain ⟨x, hx, rfl⟩ := List.mem_map.mp h
    obtain ⟨c, -, hc⟩ := List.mem_filterMap.mp hx
    obtain ⟨cell, hcell, rfl⟩ := Option.map_eq_some_iff.mp hc
    exact ⟨c, hcell⟩
  · rintro ⟨c, hc⟩
    have hchangeable : c ∈ Patch.changeable := by
      by_contra hnot
      rw [Patch.cell?_of_not_changeable hnot] at hc
      cases hc
    exact List.mem_map.mpr
      ⟨(c, cell), List.mem_filterMap.mpr ⟨c, hchangeable, by rw [hc]; rfl⟩, rfl⟩

/-- Only the id and the details of a patch can keep its cells from being bound. -/
theorem bindError?_cells_iff {p : Patch} {document : Text} (hd : p.document = .ok document) :
    bindError? ((p.cells document).map Prod.snd ++ [textCell p.id]) = none
      ↔ p.id.NoSurrogates ∧ ∀ a, ∀ t ∈ p.detail a, t.NoSurrogates := by
  rw [Identity.bindError?_eq_none_iff]
  constructor
  · intro h
    refine ⟨h p.id (List.mem_append_right _ (List.mem_singleton.mpr rfl)), fun a t ht => ?_⟩
    refine h t (List.mem_append_left _ (mem_map_cells_iff.mpr ⟨.detail a, ?_⟩))
    show (p.detail a).map Cell.text = _
    rw [ht]
    rfl
  · rintro ⟨hid, hdetail⟩ t ht
    rcases List.mem_append.mp ht with ht | ht
    · obtain ⟨c, hcell⟩ := mem_map_cells_iff.mp ht
      cases c with
      | identityId => cases hcell
      | createdAt => cases hcell
      | detail a =>
        obtain ⟨s, hs, he⟩ := Option.map_eq_some_iff.mp hcell
        obtain rfl := Cell.text.inj he
        exact hdetail a s hs
      | dob =>
        obtain ⟨u, -, he⟩ := Option.map_eq_some_iff.mp hcell
        exact Identity.noSurrogates_of_utcCell he
      | metadata =>
        obtain ⟨m, -, he⟩ := Option.map_eq_some_iff.mp hcell
        obtain rfl := Cell.text.inj he
        exact (document_isPrintable hd).noSurrogates
    · obtain rfl := Cell.text.inj (List.mem_singleton.mp ht)
      exact hid

theorem update_of_noFields (d : Database) (fault : Option FaultPoint) {p : Patch}
    (h : p.NoFields) : update d fault p
      = ⟨.error (.classified (Failure.badRequest "No fields provided for update")), d⟩ := by
  have hd : p.document = .ok [] := by rw [Patch.document, h.2.2]
  rw [update_eq, hd]
  exact if_pos ((cells_eq_nil_iff p []).mpr h)

/-- A patch of some field succeeds on a filled table that has the id. -/
theorem update_some {t : Table} (ht : ∀ row ∈ t, row.isFilled = true) {p : Patch} {document : Text}
    (hd : p.document = .ok document) (hp : ¬p.NoFields) (hid : p.id.NoSurrogates)
    (hdetail : ∀ a, ∀ t ∈ p.detail a, t.NoSurrogates) :
    update (some t) none p
      = if t.hasId (textCell p.id) then ⟨.ok (), some (p.patchTable document t)⟩
        else ⟨.error (.classified (Failure.notFound p.id)), some t⟩ := by
  rw [update_eq, hd]
  simp only [if_neg (mt (cells_eq_nil_iff p document).mp hp)]
  exact modify_some ((bindError?_cells_iff hd).mpr ⟨hid, hdetail⟩)
    (Patch.assign_cells p document ht)

end Repository

end Registry
