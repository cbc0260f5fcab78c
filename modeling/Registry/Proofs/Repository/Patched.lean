import Registry.Proofs.Repository.Operation

/-!
# Rows that a patch changes

A patch puts its cells into the row of its id and leaves all other cells and rows alone. Its cells
are what the columns keep, and none of them is null, so a filled row stays filled and the table
accepts the change (`assign_cells`).
-/

namespace Registry

namespace Patch

def patchRow (p : Patch) (document : Text) (row : Row) : Row :=
  fun c => (p.cell? document c).getD (row c)

/-- A table with the cells of a patch in the row of its id. -/
def patchTable (p : Patch) (document : Text) (t : Table) : Table :=
  t.map fun row => if row .identityId == textCell p.id then p.patchRow document row else row

theorem cell?_convert {p : Patch} {document : Text} {c : Column} {cell : Cell}
    (h : p.cell? document c = some cell) : cell.convert c.type = cell := by
  cases c with
  | identityId => cases h
  | createdAt => cases h
  | detail a =>
    obtain ⟨t, -, rfl⟩ := Option.map_eq_some_iff.mp h
    rfl
  | dob =>
    obtain ⟨u, -, rfl⟩ := Option.map_eq_some_iff.mp h
    exact utcCell_convert (some u)
  | metadata =>
    obtain ⟨m, -, rfl⟩ := Option.map_eq_some_iff.mp h
    rfl

theorem cell?_ne_null {p : Patch} {document : Text} {c : Column} {cell : Cell}
    (h : p.cell? document c = some cell) : cell ≠ .null := by
  cases c with
  | identityId => cases h
  | createdAt => cases h
  | detail a =>
    obtain ⟨t, -, rfl⟩ := Option.map_eq_some_iff.mp h
    exact Cell.noConfusion
  | dob =>
    obtain ⟨u, -, rfl⟩ := Option.map_eq_some_iff.mp h
    exact utcCell_ne_null.mpr rfl
  | metadata =>
    obtain ⟨m, -, rfl⟩ := Option.map_eq_some_iff.mp h
    exact Cell.noConfusion

theorem cell?_of_not_changeable {p : Patch} {document : Text} {c : Column}
    (h : c ∉ changeable) : p.cell? document c = none := by
  cases c with
  | identityId => rfl
  | createdAt => rfl
  | detail a => exact absurd (by cases a <;> decide) h
  | dob => exact absurd (by decide) h
  | metadata => exact absurd (by decide) h

theorem foldl_assign_of_columns (p : Patch) (document : Text) (cs : List Column) (row : Row) :
    (cs.filterMap fun c => (p.cell? document c).map fun cell => (c, cell)).foldl
        (fun r x => Row.assign r x.1 x.2) row
      = fun d => if d ∈ cs then (p.cell? document d).getD (row d) else row d := by
  induction cs generalizing row with
  | nil =>
    funext d
    simp
  | cons c cs ih =>
    rw [List.filterMap_cons]
    cases hc : p.cell? document c with
    | none =>
      refine (ih row).trans (funext fun d => ?_)
      by_cases hd : d = c
      · subst hd
        simp [hc]
      · simp [hd]
    | some cell =>
      refine (ih (Row.assign row c cell)).trans (funext fun d => ?_)
      by_cases hd : d = c
      · subst hd
        simp [hc, Row.assign, cell?_convert hc]
      · simp [hd, Row.assign]

/-- Assigning the cells of a patch to a row. -/
theorem foldl_assign_cells (p : Patch) (document : Text) (row : Row) :
    (p.cells document).foldl (fun r x => Row.assign r x.1 x.2) row = p.patchRow document row := by
  refine (foldl_assign_of_columns p document changeable row).trans (funext fun d => ?_)
  unfold patchRow
  by_cases hd : d ∈ changeable
  · rw [if_pos hd]
  · rw [if_neg hd, cell?_of_not_changeable hd, Option.getD_none]

theorem patchRow_isFilled {p : Patch} {document : Text} {row : Row} (h : row.isFilled = true) :
    (p.patchRow document row).isFilled = true := by
  rw [Row.isFilled_iff] at h ⊢
  intro c hc
  unfold patchRow
  cases hcell : p.cell? document c with
  | none => exact h c hc
  | some cell => exact cell?_ne_null hcell

theorem cells_ne_id (p : Patch) (document : Text) :
    ((p.cells document).any fun x => x.1 == .identityId) = false := by
  rw [List.any_eq_false]
  intro x hx
  obtain ⟨c, hc, hcell⟩ := List.mem_filterMap.mp hx
  obtain ⟨cell, -, rfl⟩ := Option.map_eq_some_iff.mp hcell
  have hne : c ≠ .identityId := by
    rintro rfl
    exact absurd hc (by decide)
  simpa using hne

/-- The table accepts the cells of a patch where all rows are filled. -/
theorem assign_cells (p : Patch) (document : Text) {t : Table}
    (h : ∀ row ∈ t, row.isFilled = true) :
    t.assign (textCell p.id) (p.cells document)
      = .ok (p.patchTable document t, (t.matching (textCell p.id)).length) := by
  have hfilled : (t.matching (textCell p.id)).all
      (fun r => Row.isFilled (p.patchRow document r)) = true := by
    rw [List.all_eq_true]
    intro row hrow
    exact patchRow_isFilled (h row (List.mem_filter.mp hrow).1)
  unfold Table.assign
  simp only [foldl_assign_cells]
  rw [hfilled]
  simp only [cells_ne_id p document]
  rfl

/-- A cell that no patch changes is the same in all rows of the patched table. -/
theorem map_patchTable (p : Patch) (document : Text) (t : Table) {c : Column}
    (hc : p.cell? document c = none) :
    (p.patchTable document t).map (fun row => row c) = t.map fun row => row c := by
  unfold patchTable
  rw [List.map_map]
  refine List.map_congr_left fun row _ => ?_
  show (if _ then p.patchRow document row else row) c = row c
  split
  · rw [patchRow, hc, Option.getD_none]
  · rfl

end Patch

end Registry
