import Registry.Proofs.Identity.Statement
import Registry.Proofs.Repository.Lawful
import Registry.Repository

/-!
# Update statements executed

A database reads the text of a statement, looks up the parameters that it names and binds their
values (`Executes`). So executed, a statement of named changes gives the columns their values in the
order of the changes, in exactly the rows of the id (`executes_iff`, `build_faithful`); this is what
the repository makes of its own statements (`executes_iff_runUpdate`).
-/

namespace Registry

/-! ## Assigned tables -/

namespace Table

/-- The table with cells assigned, in order, to the columns of the rows of an id. -/
def assigned (t : Table) (id : Cell) (cells : List (Column × Cell)) : Table :=
  t.map fun row =>
    if row .identityId = id then cells.foldl (fun r x => Row.assign r x.1 x.2) row else row

/-- An assignment succeeds exactly if what it leaves keeps the rules. -/
theorem assign_eq_ok_iff {t t' : Table} {id : Cell} {cells : List (Column × Cell)} {n : Nat}
    (h : t.Lawful) :
    t.assign id cells = .ok (t', n)
      ↔ t' = t.assigned id cells ∧ n = (t.matching id).length ∧ t'.Lawful := by
  have hassigned : (t.map fun row => if row .identityId == id then
      cells.foldl (fun r (x : Column × Cell) => Row.assign r x.1 x.2) row else row)
      = t.assigned id cells := by
    simp only [beq_iff_eq, assigned]
  constructor
  · intro ha
    have hlawful := h.assign ha
    unfold assign at ha
    simp only at ha
    split at ha
    · obtain ⟨rfl, rfl⟩ := Prod.mk.inj (Except.ok.inj ha)
      exact ⟨hassigned, rfl, hlawful⟩
    · cases ha
  · rintro ⟨rfl, rfl, hlawful⟩
    have hfilled : (t.matching id).all (fun row => Row.isFilled
        (cells.foldl (fun r (x : Column × Cell) => Row.assign r x.1 x.2) row)) = true := by
      rw [List.all_eq_true]
      intro row hrow
      obtain ⟨hrow, hid⟩ := List.mem_filter.mp hrow
      have hmem := hlawful.filled _ (List.mem_map_of_mem hrow)
      rwa [if_pos (beq_iff_eq.mp hid)] at hmem
    have hids := idsDistinct_iff.mpr hlawful.ids
    unfold assign
    simp only
    rw [hassigned, hids, Bool.or_true, Bool.and_true, if_pos hfilled]

end Table

namespace UpdateStatement

/-! ## Execution -/

/-- The cell that a parameter is bound as. -/
def Parameter.bind (p : Parameter) : Except BindError Cell := Cell.bindAs p.type p.value

/-- A column and the name of a parameter, as they are read, stand for a column and a cell. -/
def Denotes (ps : List Parameter) (target : Text × Text) (x : Column × Cell) : Prop :=
  Column.ofName? target.1 = some x.1
    ∧ ∃ p, parameter? ps target.2 = some p ∧ p.bind = .ok x.2

/-- A statement, of which the text and the parameters are given, makes a table another one and
concerns a number of its rows. -/
def Executes (text : Text) (ps : List Parameter) (t t' : Table) (n : Nat) : Prop :=
  ∃ targets name cells p id, readText? text = some (targets, name)
    ∧ List.Forall₂ (Denotes ps) targets cells
    ∧ parameter? ps name = some p ∧ p.bind = .ok id
    ∧ t.assign (id.convert Column.identityId.type) cells = .ok (t', n)

/-- A change binds a cell in the column of its name. -/
def Binds (change : Text × Value) (x : Column × Cell) : Prop :=
  change.1 = Text.ofString x.1.name ∧ Cell.bindAs x.1.type change.2 = .ok x.2

theorem binds_named_iff {c : Column} {v : Value} {x : Column × Cell} :
    Binds (Text.ofString c.name, v) x ↔ c = x.1 ∧ Cell.bindAs c.type v = .ok x.2 := by
  rw [Binds, ← Column.ofName?_eq_some_iff, Column.ofName?_name, Option.some.injEq]
  refine and_congr_right ?_
  rintro rfl
  rfl

/-- Where every place has the parameter of its value, what is read stands for what is assigned. -/
theorem forall₂_denotes_iff {ps : List Parameter} {position : Nat} {as : List (Column × Value)}
    (h : ∀ x ∈ as.zipIdx position,
      parameter? ps (parameterName x.2) = some ⟨parameterName x.2, x.1.2, x.1.1.type⟩)
    {cells : List (Column × Cell)} :
    List.Forall₂ (Denotes ps) (targets position (names as)) cells
      ↔ List.Forall₂ Binds (named as) cells := by
  induction as generalizing position cells with
  | nil => simp [targets, names, named]
  | cons a as ih =>
    rw [List.zipIdx_cons, List.forall_mem_cons] at h
    have hhead (x : Column × Cell) : Denotes ps (Text.ofString a.1.name, parameterName position) x
        ↔ Binds (Text.ofString a.1.name, a.2) x := by
      rw [Denotes, binds_named_iff, Column.ofName?_name, Option.some.injEq, h.1]
      simp only [Option.some.injEq, exists_eq_left', Parameter.bind]
    have htargets : targets position (names (a :: as))
        = (Text.ofString a.1.name, parameterName position) :: targets (position + 1) (names as) :=
      rfl
    have hnamed : named (a :: as) = (Text.ofString a.1.name, a.2) :: named as := rfl
    rw [htargets, hnamed, List.forall₂_cons_left_iff, List.forall₂_cons_left_iff]
    simp only [hhead, ih h.2]

theorem executes_iff {s : UpdateStatement} (h : s.assignments ≠ []) {t t' : Table} {n : Nat} :
    Executes s.text s.parameters t t' n
      ↔ ∃ cells key, List.Forall₂ Binds (named s.assignments) cells
        ∧ Cell.bindAs Column.identityId.type s.id = .ok key
        ∧ t.assign (key.convert Column.identityId.type) cells = .ok (t', n) := by
  rw [Executes, readText?_text h]
  constructor
  · rintro ⟨_, _, cells, p, key, hread, hcells, hp, hkey, ht⟩
    obtain ⟨rfl, rfl⟩ := Prod.mk.inj (Option.some.inj hread)
    rw [parameter?_parameters_last, Option.some.injEq] at hp
    subst hp
    rw [forall₂_denotes_iff fun x hx => parameter?_of_mem_zipIdx s hx] at hcells
    exact ⟨cells, key, hcells, hkey, ht⟩
  · rintro ⟨cells, key, hcells, hkey, ht⟩
    rw [← forall₂_denotes_iff fun x hx => parameter?_of_mem_zipIdx s hx] at hcells
    exact ⟨_, _, cells, _, key, rfl, hcells, parameter?_parameters_last s, hkey, ht⟩

/-! ## The statements of the repository -/

/-- The value is in the form in which the column stores it: a date at UTC, or a text that can be
encoded. -/
def IsStored (c : Column) (v : Value) : Prop :=
  if c.type = .dateTime then ∃ d, v = .dateTime d
  else ∃ t, v = .text t ∧ EncodeError.of? t = none

theorem bindAs_of_isStored {c : Column} {v : Value} (h : IsStored c v) :
    Cell.bindAs c.type v = .ok ((Cell.ofValue? v).getD .null) := by
  unfold IsStored at h
  unfold Cell.bindAs
  split at h
  · next htype =>
    obtain ⟨d, rfl⟩ := h
    rw [if_pos htype]
    rfl
  · next htype =>
    obtain ⟨t, rfl, hencodes⟩ := h
    rw [if_neg htype, Cell.bind, hencodes]
    rfl

theorem forall₂_binds_iff_of_isStored {as : List (Column × Value)}
    (h : ∀ a ∈ as, IsStored a.1 a.2) {cells : List (Column × Cell)} :
    List.Forall₂ Binds (named as) cells
      ↔ cells = as.map fun a => (a.1, (Cell.ofValue? a.2).getD .null) := by
  induction as generalizing cells with
  | nil => exact List.forall₂_nil_left_iff
  | cons a as ih =>
    rw [List.forall_mem_cons] at h
    have hnamed : named (a :: as) = (Text.ofString a.1.name, a.2) :: named as := rfl
    have hhead (x : Column × Cell) : Binds (Text.ofString a.1.name, a.2) x
        ↔ x = (a.1, (Cell.ofValue? a.2).getD .null) := by
      rw [binds_named_iff, bindAs_of_isStored h.1, Prod.ext_iff, Except.ok.injEq, eq_comm,
        eq_comm (b := x.2)]
    rw [hnamed, List.forall₂_cons_left_iff]
    simp only [hhead, ih h.2, exists_and_left, exists_eq_left, List.map_cons]

/-- The repository executes its statements as a database does. -/
theorem executes_iff_runUpdate {s : UpdateStatement} (h : s.assignments ≠ [])
    (hstored : ∀ a ∈ s.assignments, IsStored a.1 a.2) (hid : IsStored .identityId s.id)
    {t t' : Table} {n : Nat} :
    Executes s.text s.parameters t t' n ↔ Repository.runUpdate s t = .ok (t', n) := by
  have hkey := bindAs_of_isStored hid
  obtain ⟨id, hvalue, -⟩ := hid
  rw [executes_iff h, Repository.runUpdate, Repository.boundCells]
  simp only [forall₂_binds_iff_of_isStored hstored, hkey, exists_and_left, exists_eq_left,
    Except.ok.injEq, exists_eq_left']
  -- a text is not converted when ids are compared
  rw [hvalue]
  rfl

/-! ## Faithfulness -/

/-- What is asked of the statement that assigns named changes to the rows of an id: its text names
the columns and parameters in order, these have the values and the id, and executed it changes
exactly the rows of the id. -/
structure Faithful (id : Value) (changes : List (Text × Value)) (s : UpdateStatement) : Prop where
  read : readText? s.text
    = some (targets 1 (changes.map Prod.fst), parameterName (changes.length + 1))
  named : s.parameters.map Parameter.name
    = (List.range' 1 (changes.length + 1)).map parameterName
  distinct : (s.parameters.map Parameter.name).Nodup
  value : ∀ i, (h : i < changes.length) → ∃ c, changes[i].1 = Text.ofString (Column.name c)
    ∧ parameter? s.parameters (parameterName (i + 1))
      = some ⟨parameterName (i + 1), changes[i].2, c.type⟩
  last : parameter? s.parameters (parameterName (changes.length + 1))
    = some ⟨parameterName (changes.length + 1), id, Column.identityId.type⟩
  executed : ∀ t t' n, t.Lawful → (Executes s.text s.parameters t t' n
    ↔ ∃ cells key, List.Forall₂ Binds changes cells
      ∧ Cell.bindAs Column.identityId.type id = .ok key
      ∧ t' = t.assigned (key.convert Column.identityId.type) cells
      ∧ n = (t.matching (key.convert Column.identityId.type)).length ∧ t'.Lawful)

theorem faithful_of_build {id : Value} {changes : List (Text × Value)} {s : UpdateStatement}
    (h : build id changes = .ok s) : Faithful id changes s := by
  obtain ⟨hne, rfl, rfl⟩ := build_eq_ok_iff.mp h
  have hlength : (UpdateStatement.named s.assignments).length = s.assignments.length :=
    List.length_map _
  refine ⟨?_, ?_, s.nodup_names, ?_, ?_, ?_⟩
  · rw [map_fst_named, hlength, readText?_text hne]
  · rw [hlength, map_name_parameters]
  · intro i hi
    rw [hlength] at hi
    refine ⟨s.assignments[i].1, ?_, ?_⟩
    · simp only [UpdateStatement.named, List.getElem_map]
    · simp only [UpdateStatement.named, List.getElem_map]
      exact parameter?_parameters s hi
  · rw [hlength, parameter?_parameters_last]
  · intro t t' n hlawful
    rw [executes_iff hne]
    simp only [Table.assign_eq_ok_iff hlawful]

/-- A statement is made of an id and named changes exactly if there are some and all names are those
of columns; it is faithful, and its text depends on the names alone. -/
theorem build_faithful (id : Value) (changes : List (Text × Value)) :
    ((∃ s, build id changes = .ok s)
      ↔ changes ≠ [] ∧ ∀ change ∈ changes, Column.IsName change.1)
    ∧ (build id changes = .error .noColumns ↔ changes = [])
    ∧ (∀ name, build id changes = .error (.unknownColumn name) ↔ FirstUnknown changes name)
    ∧ ∀ s, build id changes = .ok s → Faithful id changes s
      ∧ ∀ id' changes' s', build id' changes' = .ok s' →
        changes'.map Prod.fst = changes.map Prod.fst → s'.text = s.text := by
  refine ⟨exists_build_iff, build_eq_noColumns_iff, fun name => build_eq_unknownColumn_iff, ?_⟩
  intro s hs
  refine ⟨faithful_of_build hs, ?_⟩
  intro id' changes' s' hs' hnames
  obtain ⟨-, rfl, -⟩ := build_eq_ok_iff.mp hs
  obtain ⟨-, rfl, -⟩ := build_eq_ok_iff.mp hs'
  rw [map_fst_named, map_fst_named] at hnames
  exact text_eq_of_names hnames

/-- A column may be named twice; each of its values has a parameter of its own. -/
theorem build_faithful_twice :
    ∃ s, build (.text "a") [("city", .text "x"), ("city", .int 1)] = .ok s
      ∧ s.text = Text.ofString "UPDATE identity SET city = :p1, city = :p2 WHERE identity_id = :p3"
      ∧ Faithful (.text "a") [("city", .text "x"), ("city", .int 1)] s := by
  have h := build_faithful (.text "a") [("city", .text "x"), ("city", .int 1)]
  exact ⟨_, rfl, by decide, (h.2.2.2 _ rfl).1⟩

end UpdateStatement

end Registry
