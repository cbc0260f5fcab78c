import Registry.Proofs.Outcome
import Registry.Proofs.Repository.Invariant
import Registry.Session.Direct

/-!
# The rules of the table

However a table is written, by a repository or by statements given directly, it keeps two rules:
all columns but the date of birth are filled, and no two rows have one id (`Table.Lawful`). Nothing
else holds of what is stored: a date may be garbled, a document may be none, and a cell may hold
numbers or octets. So what is said of every content of the table is said of lawful tables.
-/

namespace Registry

/-! ## Lawful tables -/

/-- What the rules of the table make hold of its rows. -/
structure Table.Lawful (t : Table) : Prop where
  filled : ∀ row ∈ t, Row.isFilled row = true
  ids : (t.map fun row => row .identityId).Nodup

theorem Table.Lawful.nil : Table.Lawful [] :=
  ⟨fun _ h => absurd h List.not_mem_nil, List.nodup_nil⟩

theorem Table.Sound.lawful {t : Table} (h : t.Sound) : t.Lawful :=
  ⟨fun row hrow => (h.rows row hrow).isFilled, h.ids⟩

theorem Table.hasId_iff {t : Table} {id : Cell} :
    t.hasId id = true ↔ id ∈ t.map fun row => row .identityId := by
  unfold Table.hasId
  rw [List.any_eq_true, List.mem_map]
  simp only [beq_iff_eq]

theorem Table.idsDistinct_iff {t : Table} :
    t.idsDistinct = true ↔ (t.map fun row => row .identityId).Nodup := by
  induction t with
  | nil => simp [Table.idsDistinct]
  | cons row rest ih =>
    rw [Table.idsDistinct, Bool.and_eq_true, Bool.not_eq_true', List.map_cons, List.nodup_cons, ih,
      ← Table.hasId_iff, Bool.not_eq_true]

/-! ## Statements keep the rules -/

theorem Table.Lawful.insert {t t' : Table} {row : Row} (h : t.Lawful) (hi : t.insert row = .ok t') :
    t'.Lawful := by
  obtain ⟨hfilled, hid, rfl⟩ := Table.insert_eq_ok hi
  exact ⟨List.forall_mem_append.mpr ⟨h.filled, List.forall_mem_singleton.mpr hfilled⟩,
    nodup_map_append_singleton h.ids hid⟩

/-- Assigning to other columns keeps a cell. -/
theorem Row.foldl_assign_of_ne {cells : List (Column × Cell)} {c : Column}
    (h : ∀ x ∈ cells, x.1 ≠ c) (row : Row) :
    cells.foldl (fun r x => Row.assign r x.1 x.2) row c = row c := by
  induction cells generalizing row with
  | nil => rfl
  | cons x cells ih =>
    rw [List.foldl_cons, ih fun y hy => h y (List.mem_cons_of_mem x hy)]
    exact if_neg (h x List.mem_cons_self).symm

theorem Table.Lawful.assign {t t' : Table} {id : Cell} {cells : List (Column × Cell)} {n : Nat}
    (h : t.Lawful) (ha : t.assign id cells = .ok (t', n)) : t'.Lawful := by
  unfold Table.assign at ha
  simp only at ha
  split at ha
  · next hrules =>
    obtain ⟨rfl, -⟩ := Prod.mk.inj (Except.ok.inj ha)
    rw [Bool.and_eq_true, List.all_eq_true] at hrules
    obtain ⟨hfilled, hids⟩ := hrules
    refine ⟨fun row hrow => ?_, ?_⟩
    · obtain ⟨r, hr, rfl⟩ := List.mem_map.mp hrow
      split
      · next hid => exact hfilled r (List.mem_filter.mpr ⟨hr, hid⟩)
      · exact h.filled r hr
    · -- ids are compared only where some are assigned; otherwise they are the old ones
      cases htouches : cells.any fun x => x.1 == .identityId with
      | true =>
        rw [htouches] at hids
        exact Table.idsDistinct_iff.mp hids
      | false =>
        have hne : ∀ x ∈ cells, x.1 ≠ .identityId := fun x hx =>
          beq_eq_false_iff_ne.mp (Bool.eq_false_iff.mpr (List.any_eq_false.mp htouches x hx))
        rw [List.map_map, List.map_congr_left (g := fun row => row .identityId) fun row _ => ?_]
        · exact h.ids
        show (if row .identityId == id then
          cells.foldl (fun r x => Row.assign r x.1 x.2) row else row) .identityId = row .identityId
        split
        · exact Row.foldl_assign_of_ne hne row
        · rfl
  · cases ha

theorem Table.Lawful.erase {t : Table} (h : t.Lawful) (id : Cell) : (t.erase id).1.Lawful :=
  ⟨fun row hrow => h.filled row (List.mem_filter.mp hrow).1,
    h.ids.sublist (List.filter_sublist.map _)⟩

/-! ## Databases -/

/-- The table of the database, if there is one, is lawful. -/
def Database.Lawful (d : Database) : Prop := ∀ t ∈ d, Table.Lawful t

namespace Direct

theorem table_eq_ok {d : Database} {t : Table} : table d = .ok t ↔ d = some t := by
  unfold table Database.table
  cases d <;> simp [Except.mapError]

/-- A row that is written directly keeps the rules. -/
theorem insert_lawful {d d' : Database} {standard : Row} {values : List (Text × Value)}
    (h : d.Lawful) (hi : insert d standard values = .ok d') : d'.Lawful := by
  unfold insert at hi
  obtain ⟨t, ht, hi⟩ := bind_eq_ok.mp hi
  obtain ⟨columns, -, hi⟩ := bind_eq_ok.mp hi
  obtain ⟨cells, -, hi⟩ := bind_eq_ok.mp hi
  obtain ⟨t', ht', hi⟩ := bind_eq_ok.mp hi
  cases hi
  rintro _ ⟨⟩
  exact (h t (table_eq_ok.mp ht)).insert (mapError_eq_ok.mp ht')

/-- A column that is written directly keeps the rules. -/
theorem assign_lawful {d d' : Database} {id v : Value} {column : Text} {n : Nat}
    (h : d.Lawful) (ha : assign d id column v = .ok (d', n)) : d'.Lawful := by
  unfold assign at ha
  obtain ⟨t, ht, ha⟩ := bind_eq_ok.mp ha
  obtain ⟨columns, -, ha⟩ := bind_eq_ok.mp ha
  obtain ⟨cell, -, ha⟩ := bind_eq_ok.mp ha
  obtain ⟨ids, -, ha⟩ := bind_eq_ok.mp ha
  obtain ⟨⟨t', m⟩, ht', ha⟩ := bind_eq_ok.mp ha
  cases ha
  rintro _ ⟨⟩
  exact (h t (table_eq_ok.mp ht)).assign (mapError_eq_ok.mp ht')

end Direct

namespace Repository

theorem update_lawful {d : Database} (h : d.Lawful) (fault : Option FaultPoint) (p : Patch) :
    (update d fault p).database.Lawful := by
  rcases update_cases d fault p with ⟨e, he⟩ | ⟨document, t', count, -, hs, he⟩
  · rw [he]
    exact h
  · obtain ⟨t, rfl, -, hassign⟩ := statement_eq_ok.mp hs
    rw [he]
    rintro _ ⟨⟩
    exact (h t rfl).assign hassign

/-- Every request keeps the rules, whatever is stored. -/
theorem step_lawful {d : Database} (h : d.Lawful) (r : Repository) (fault : Option FaultPoint)
    (q : Request) : (r.step d fault q).2.Lawful := by
  cases q with
  | create random now i =>
    show (create d fault random now i).database.Lawful
    rcases create_cases d fault random now i with ⟨e, he⟩ | ⟨document, u, t', -, -, hins, he⟩
    · rw [he]
      exact h
    · obtain ⟨t, rfl, -, hins⟩ := insertion_eq_ok.mp hins
      rw [he]
      rintro _ ⟨⟩
      exact (h t rfl).insert hins
  | get elapsed id => exact h
  | getAll => exact h
  | patch p => exact update_lawful h fault p
  | update i =>
    show (updateWith d fault i).database.Lawful
    rw [updateWith_eq]
    exact update_lawful h fault _
  | delete id =>
    show (delete d fault id).database.Lawful
    unfold delete
    rcases modify_cases d fault "Failed to delete identity" id [textCell id]
        (fun t => .ok (t.erase (textCell id))) with ⟨e, he⟩ | ⟨t', count, hs, -, he⟩
    · rw [he]
      exact h
    · obtain ⟨t, rfl, -, herase⟩ := statement_eq_ok.mp hs
      obtain ⟨rfl, -⟩ := Prod.mk.inj (Except.ok.inj herase)
      rw [he]
      rintro _ ⟨⟩
      exact (h t rfl).erase _

end Repository

end Registry
