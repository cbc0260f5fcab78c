import Registry.Proofs.Repository.Row
import Registry.Repository

/-!
# Operations as statements

An operation that changes the table is a session of one statement, so all that it depends on is the
table after the statement or why it is not executed (`statement`). The operations are worked out in
this form (`create_eq`, `modify_eq`, `update_eq`): every failure leaves the database as it was.
-/

namespace Registry

/-! ## Sessions of one statement -/

/-- The table after a statement, or why it is not executed. -/
def statement {α : Type} (d : Database) (cells : List Cell)
    (f : Table → Except DatabaseFault (Table × α)) : Except StatementError (Table × α) :=
  match d with
  | none => .error (.database .operational)
  | some t =>
    match bindError? cells with
    | some e => .error (.unencodable e)
    | none => (f t).mapError .database

/-- The table after a row is inserted, or why it is not. -/
def insertion (d : Database) (row : Row) : Except StatementError Table :=
  match d with
  | none => .error (.database .operational)
  | some t =>
    match bindError? (Column.all.map row) with
    | some e => .error (.unencodable e)
    | none => (t.insert row).mapError .database

theorem statement_eq_ok {α : Type} {d : Database} {cells : List Cell}
    {f : Table → Except DatabaseFault (Table × α)} {x : Table × α} :
    statement d cells f = .ok x ↔ ∃ t, d = some t ∧ bindError? cells = none ∧ f t = .ok x := by
  unfold statement
  cases d with
  | none => simp
  | some t =>
    cases bindError? cells with
    | some e => simp
    | none => simp [mapError_eq_ok]

theorem insertion_eq_ok {d : Database} {row : Row} {t : Table} :
    insertion d row = .ok t ↔ ∃ u, d = some u ∧ bindError? (Column.all.map row) = none
      ∧ u.insert row = .ok t := by
  unfold insertion
  cases d with
  | none => simp
  | some u =>
    cases bindError? (Column.all.map row) with
    | some e => simp
    | none => simp [mapError_eq_ok]

theorem Session.execute_start {α : Type} (d : Database) (cells : List Cell)
    (f : Table → Except DatabaseFault (Table × α)) :
    (Session.start d).execute cells f
      = (statement d cells f).map fun x => ({ Session.start d with working := some x.1 }, x.2) := by
  unfold Session.execute statement
  cases d with
  | none => rfl
  | some t =>
    simp only [Session.start]
    cases bindError? cells with
    | some e => rfl
    | none =>
      cases f t with
      | error e => rfl
      | ok x => rfl

/-- Committing a session with one row that waits inserts the row. -/
theorem Session.commit_add (d : Database) (row : Row) :
    ((Session.start d).add row).commit
      = (insertion d row).map fun t => Session.start (some t) := by
  unfold Session.commit Session.flush Session.add insertion
  simp only [Session.start, List.nil_append, Session.insertAll, Session.insert, Session.execute]
  cases d with
  | none => rfl
  | some t =>
    simp only
    cases bindError? (Column.all.map row) with
    | some e => rfl
    | none =>
      cases t.insert row with
      | error e => rfl
      | ok t' => rfl

namespace Repository

/-! ## Creating -/

/-- What is inserted for an identity. -/
def created (random : Octets) (u : UtcTime) (i : Identity) : Identity :=
  { i with id := Identifier.generate tag random, createdAt := some u }

theorem create_eq (d : Database) (fault : Option FaultPoint) (random : Octets) (now : DateTime)
    (i : Identity) :
    create d fault random now i =
      match Metadata.encode (metadataValue i.metadata) with
      | .error e => ⟨.error (marshalError e), d⟩
      | .ok document =>
        match now.toUtc? with
        | none => ⟨.error (.escaped (.input .beyondCalendar)), d⟩
        | some u =>
          if callsLeft < (metadataValue i.metadata).copyCalls then ⟨.error (.escaped .uncopied), d⟩
          else if fault = some .commit then
            ⟨.error (.classified (injectedFailure "Failed to create identity")), d⟩
          else
            match insertion d ((created random u i).toRow document) with
            | .error e => ⟨.error (e.classify "Failed to create identity"), d⟩
            | .ok t => ⟨.ok (created random u i), some t⟩ := by
  unfold create
  cases Metadata.encode (metadataValue i.metadata) with
  | error e => rfl
  | ok document =>
    cases now.toUtc? with
    | none => rfl
    | some u =>
      have hcommit := Session.commit_add d ((created random u i).toRow document)
      simp only [created] at hcommit ⊢
      split
      · rfl
      split
      · rfl
      · rw [hcommit]
        cases insertion d _ with
        | error e => rfl
        | ok t => rfl

/-! ## Changing and deleting -/

theorem modify_eq (d : Database) (fault : Option FaultPoint) (message : String) (id : Text)
    (cells : List Cell) (f : Table → Except DatabaseFault (Table × Nat)) :
    modify d fault message id cells f =
      if fault = some .statement then ⟨.error (.classified (injectedFailure message)), d⟩
      else if fault = some .rowCount then
        ⟨.error (.classified (injectedFailure "Failed to get rows affected")), d⟩
      else
        match statement d cells f with
        | .error e => ⟨.error (e.classify message), d⟩
        | .ok (t, count) =>
          if count = 0 then ⟨.error (.classified (Failure.notFound id)), d⟩
          else if fault = some .commit then ⟨.error (.classified (injectedFailure message)), d⟩
          else ⟨.ok (), some t⟩ := by
  unfold modify
  simp only [Session.execute_start]
  split
  · rfl
  split
  · rfl
  cases statement d cells f with
  | error e => rfl
  | ok x =>
    obtain ⟨t, count⟩ := x
    rfl

end Repository

/-! ## The cells of a patch -/

namespace Patch

/-- The document of the metadata of a patch; a patch without metadata needs none. -/
def document (p : Patch) : Except MetadataError Text :=
  match p.metadata with
  | none => .ok []
  | some m => Metadata.encode (metadataValue (some m))

/-- The cell that a patch puts into a column. -/
def cell? (p : Patch) (document : Text) : Column → Option Cell
  | .detail a => (p.detail a).map .text
  | .dob => p.dob.map fun u => utcCell (some u)
  | .metadata => p.metadata.map fun _ => .text document
  | _ => none

/-- The columns that a patch may change. -/
def changeable : List Column := Column.updatable ++ [Column.metadata]

/-- The assignments of a patch. -/
def cells (p : Patch) (document : Text) : List (Column × Cell) :=
  changeable.filterMap fun c => (p.cell? document c).map fun cell => (c, cell)

end Patch

namespace Repository

/-- A change in the form in which it is stored. -/
def storedChange (document : Text) (change : Column × Value) : Column × Value :=
  if change.1 = .metadata then (.metadata, .text document) else change

theorem storedChanges_of_encode {changes : List (Column × Value)} {document : Text}
    (h : ∀ change ∈ changes, change.1 = .metadata → Metadata.encode change.2 = .ok document) :
    storedChanges changes = .ok (changes.map (storedChange document)) := by
  induction changes with
  | nil => rfl
  | cons change rest ih =>
    obtain ⟨c, v⟩ := change
    have ih := ih fun change hc => h change (List.mem_cons_of_mem _ hc)
    by_cases hc : c = .metadata
    · subst hc
      rw [storedChanges, h (.metadata, v) (by simp) rfl, ih]
      rfl
    · rw [storedChanges, ih, List.map_cons, storedChange, if_neg hc]
      · rfl
      · exact fun he => hc he

theorem storedChanges_of_error {changes : List (Column × Value)} {v : Value} {e : MetadataError}
    (hv : ∀ change ∈ changes, change.1 = .metadata → change.2 = v) (hmem : (.metadata, v) ∈ changes)
    (he : Metadata.encode v = .error e) : storedChanges changes = .error e := by
  induction changes with
  | nil => cases hmem
  | cons change rest ih =>
    obtain ⟨c, w⟩ := change
    by_cases hc : c = .metadata
    · subst hc
      obtain rfl : w = v := hv (.metadata, w) (by simp) rfl
      rw [storedChanges, he]
    · have hmem : (.metadata, v) ∈ rest := by
        rcases List.mem_cons.mp hmem with h | h
        · exact absurd (congrArg Prod.fst h).symm hc
        · exact h
      rw [storedChanges, ih (fun change hch => hv change (List.mem_cons_of_mem _ hch)) hmem]
      · rfl
      · exact fun he => hc he

theorem mem_changes {p : Patch} {change : Column × Value} :
    change ∈ p.changes ↔ change.1 ∈ Patch.changeable ∧ p.get change.1 ≠ .null
      ∧ change.2 = p.get change.1 := by
  obtain ⟨c, v⟩ := change
  unfold Patch.changes Patch.changeable
  rw [List.mem_map]
  constructor
  · rintro ⟨d, hd, he⟩
    obtain ⟨rfl, rfl⟩ := Prod.mk.inj he
    rw [List.mem_filter] at hd
    exact ⟨hd.1, bne_iff_ne.mp hd.2, rfl⟩
  · rintro ⟨hc, hne, hv⟩
    exact ⟨c, List.mem_filter.mpr ⟨hc, bne_iff_ne.mpr hne⟩, Prod.ext rfl hv.symm⟩

/-- The cells that are bound for the changes of a patch are those of the patch. -/
theorem boundCell_change (p : Patch) (document : Text) {c : Column} (hc : c ∈ Patch.changeable) :
    p.cell? document c = if p.get c = .null then none
      else some ((Cell.ofValue? (storedChange document (c, p.get c)).2).getD .null) := by
  cases c with
  | identityId => exact absurd hc (by decide)
  | createdAt => exact absurd hc (by decide)
  | detail a =>
    show (p.detail a).map Cell.text = if Patch.textValue (p.detail a) = .null then none
      else some ((Cell.ofValue? (Patch.textValue (p.detail a))).getD .null)
    cases p.detail a with
    | none => rfl
    | some t => rfl
  | dob =>
    show p.dob.map (fun u => utcCell (some u)) = if utcValue p.dob = .null then none
      else some ((Cell.ofValue? (utcValue p.dob)).getD .null)
    cases p.dob with
    | none => rfl
    | some u => rfl
  | metadata =>
    show p.metadata.map (fun _ => Cell.text document) = if metadataValue p.metadata = .null then none
      else some (.text document)
    cases p.metadata with
    | none => rfl
    | some m => rfl

theorem boundCells_of_subset (p : Patch) (document : Text) (id : Value) {cs : List Column}
    (h : ∀ c ∈ cs, c ∈ Patch.changeable) :
    boundCells ⟨((cs.filter fun c => p.get c != .null).map fun c => (c, p.get c)).map
        (storedChange document), id⟩
      = cs.filterMap fun c => (p.cell? document c).map fun cell => (c, cell) := by
  induction cs with
  | nil => rfl
  | cons c cs ih =>
    have hc := boundCell_change p document (h c (by simp))
    have ih := ih fun d hd => h d (List.mem_cons_of_mem c hd)
    rw [List.filterMap_cons, hc, List.filter_cons]
    by_cases hnull : p.get c = .null
    · rw [if_pos hnull, if_neg (by simp [hnull])]
      exact ih
    · rw [if_neg hnull, if_pos (by simp [hnull]), List.map_cons, List.map_cons]
      refine List.cons_eq_cons.mpr ⟨?_, ih⟩
      by_cases hm : c = .metadata
      · simp [storedChange, hm]
      · simp [storedChange, hm]

theorem boundCells_changes (p : Patch) (document : Text) (id : Value) :
    boundCells ⟨p.changes.map (storedChange document), id⟩ = p.cells document :=
  boundCells_of_subset p document id fun _ hc => hc

theorem changes_eq_nil_iff (p : Patch) (document : Text) :
    p.changes = [] ↔ p.cells document = [] := by
  have h := congrArg List.length (boundCells_changes p document .null)
  rw [boundCells, List.length_map, List.length_map] at h
  rw [← List.length_eq_zero_iff, ← List.length_eq_zero_iff, h]

theorem storedChanges_changes (p : Patch) :
    storedChanges p.changes = p.document.map fun document =>
      p.changes.map (storedChange document) := by
  have hvalue : ∀ change ∈ p.changes, change.1 = .metadata →
      change.2 = metadataValue p.metadata := by
    intro change hc hm
    have h := (mem_changes.mp hc).2.2
    rw [hm] at h
    exact h
  unfold Patch.document
  cases hm : p.metadata with
  | none =>
    have hno : ∀ change ∈ p.changes, change.1 ≠ .metadata := by
      intro change hc he
      have h := (mem_changes.mp hc).2.1
      rw [he] at h
      exact h (congrArg metadataValue hm)
    exact storedChanges_of_encode fun change hc he => absurd he (hno change hc)
  | some m =>
    rw [hm] at hvalue
    cases he : Metadata.encode (metadataValue (some m)) with
    | error e =>
      show _ = (Metadata.encode (metadataValue (some m))).map _
      rw [he]
      refine storedChanges_of_error hvalue (mem_changes.mpr ⟨?_, ?_, ?_⟩) he
      · show Column.metadata ∈ Patch.changeable
        decide
      · show metadataValue p.metadata ≠ .null
        rw [hm]
        exact Value.noConfusion
      · exact congrArg metadataValue hm.symm
    | ok document =>
      show _ = (Metadata.encode (metadataValue (some m))).map _
      rw [he]
      refine storedChanges_of_encode fun change hc hcm => ?_
      rw [hvalue change hc hcm, he]

theorem update_eq (d : Database) (fault : Option FaultPoint) (p : Patch) :
    update d fault p =
      match p.document with
      | .error e => ⟨.error (marshalError e), d⟩
      | .ok document =>
        if p.cells document = [] then
          ⟨.error (.classified (Failure.badRequest "No fields provided for update")), d⟩
        else
          modify d fault "Failed to update identity" p.id
            ((p.cells document).map Prod.snd ++ [textCell p.id])
            fun t => t.assign (textCell p.id) (p.cells document) := by
  unfold update
  rw [storedChanges_changes]
  cases p.document with
  | error e => rfl
  | ok document =>
    have hcells := boundCells_changes p document (.text p.id)
    have hnil := changes_eq_nil_iff p document
    simp only [Except.map]
    cases hch : p.changes.map (storedChange document) with
    | nil =>
      rw [if_pos (hnil.mp (List.map_eq_nil_iff.mp hch))]
      rfl
    | cons change rest =>
      rw [hch] at hcells
      have hne : p.cells document ≠ [] := by
        intro h
        rw [hnil.mpr h] at hch
        cases hch
      rw [if_neg hne]
      unfold runUpdate
      simp only [hcells]
      rfl

end Repository

end Registry
