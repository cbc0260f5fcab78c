import Mathlib.Data.List.Range
import Registry.Identity.Update
import Registry.Proofs.Identity.Fields
import Registry.Proofs.Text.Cutting
import Registry.Proofs.Text.Digits

/-!
# Update statements read back

A statement is made of named changes exactly if there are some and every name is that of a column
(`build_eq_ok_iff`), so no text of a caller gets into it. The assignments are read back from its
text with the parameters that they name (`readText?_text`), and these names are distinct
(`nodup_names`), so every parameter has the value of its own assignment.
-/

namespace Registry

/-! ## Names of columns -/

namespace Column

def IsName (name : Text) : Prop := ∃ c : Column, name = Text.ofString c.name

theorem ofName?_name (c : Column) : ofName? (Text.ofString c.name) = some c := by
  have hall : ∀ c ∈ all, ofName? (Text.ofString c.name) = some c := by decide +kernel
  exact hall c (mem_all c)

theorem ofName?_eq_some_iff {name : Text} {c : Column} :
    ofName? name = some c ↔ name = Text.ofString c.name := by
  constructor
  · intro h
    have hname := List.find?_some (p := fun c : Column => Text.ofString c.name == name) h
    exact (beq_iff_eq.mp hname).symm
  · rintro rfl
    exact ofName?_name c

theorem ofName?_eq_none_iff {name : Text} : ofName? name = none ↔ ¬IsName name := by
  rw [Option.eq_none_iff_forall_ne_some, IsName, not_exists]
  exact forall_congr' fun c => not_congr ofName?_eq_some_iff

end Column

namespace UpdateStatement

/-! ## Building -/

/-- Assignments under the names of their columns. -/
def named (as : List (Column × Value)) : List (Text × Value) :=
  as.map fun a => (Text.ofString a.1.name, a.2)

/-- The names of the columns of assignments. -/
def names (as : List (Column × Value)) : List Text := as.map fun a => Text.ofString a.1.name

theorem map_fst_named (as : List (Column × Value)) : (named as).map Prod.fst = names as := by
  rw [named, List.map_map]
  rfl

theorem isName_of_mem_names {as : List (Column × Value)} {name : Text} (h : name ∈ names as) :
    Column.IsName name := by
  obtain ⟨a, -, rfl⟩ := List.mem_map.mp h
  exact ⟨a.1, rfl⟩

/-- A name is the first among those of the changes that is none of a column. -/
def FirstUnknown (changes : List (Text × Value)) (name : Text) : Prop :=
  ∃ before v after, changes = before ++ (name, v) :: after
    ∧ (∀ change ∈ before, Column.IsName change.1) ∧ ¬Column.IsName name

/-- The assignment of a single change. -/
def assignment (change : Text × Value) : Except UpdateError (Column × Value) :=
  match Column.ofName? change.1 with
  | none => .error (.unknownColumn change.1)
  | some c => .ok (c, change.2)

theorem assignment_eq_ok_iff {change : Text × Value} {a : Column × Value} :
    assignment change = .ok a ↔ change = (Text.ofString a.1.name, a.2) := by
  obtain ⟨name, v⟩ := change
  obtain ⟨c, w⟩ := a
  rw [Prod.mk.injEq, ← Column.ofName?_eq_some_iff]
  unfold assignment
  cases Column.ofName? name with
  | none => simp
  | some d => simp

theorem assignment_eq_error_iff {change : Text × Value} {e : UpdateError} :
    assignment change = .error e ↔ ¬Column.IsName change.1 ∧ e = .unknownColumn change.1 := by
  rw [← Column.ofName?_eq_none_iff]
  unfold assignment
  cases Column.ofName? change.1 with
  | none => simp [eq_comm]
  | some c => simp

theorem exists_assignment_iff {change : Text × Value} :
    (∃ a, assignment change = .ok a) ↔ Column.IsName change.1 := by
  simp only [assignment_eq_ok_iff, Prod.ext_iff]
  constructor
  · rintro ⟨a, hname, -⟩
    exact ⟨a.1, hname⟩
  · rintro ⟨c, hname⟩
    exact ⟨(c, change.2), hname, rfl⟩

theorem resolve_eq_mapM (changes : List (Text × Value)) :
    resolve changes = changes.mapM assignment := by
  induction changes with
  | nil => rfl
  | cons change rest ih =>
    obtain ⟨name, v⟩ := change
    rw [resolve]
    cases hname : Column.ofName? name with
    | none => rw [mapM_cons_error (e := .unknownColumn name) (by simp only [assignment, hname])]
    | some c => rw [mapM_cons_ok (b := (c, v)) (by simp only [assignment, hname]), ih]

theorem resolve_eq_ok_iff {changes : List (Text × Value)} {as : List (Column × Value)} :
    resolve changes = .ok as ↔ changes = named as := by
  rw [resolve_eq_mapM, mapM_eq_ok, named, ← List.forall₂_eq_eq_eq, List.forall₂_map_right_iff]
  simp only [assignment_eq_ok_iff]

theorem resolve_eq_error_iff {changes : List (Text × Value)} {e : UpdateError} :
    resolve changes = .error e ↔ ∃ name, e = .unknownColumn name ∧ FirstUnknown changes name := by
  rw [resolve_eq_mapM, mapM_eq_error]
  simp only [assignment_eq_error_iff, exists_assignment_iff]
  constructor
  · rintro ⟨before, change, after, rfl, hbefore, hname, rfl⟩
    exact ⟨change.1, rfl, before, change.2, after, rfl, hbefore, hname⟩
  · rintro ⟨name, rfl, before, v, after, rfl, hbefore, hname⟩
    exact ⟨before, (name, v), after, rfl, hbefore, hname, rfl⟩

theorem build_eq_ok_iff {id : Value} {changes : List (Text × Value)} {s : UpdateStatement} :
    build id changes = .ok s
      ↔ s.assignments ≠ [] ∧ changes = named s.assignments ∧ s.id = id := by
  obtain ⟨as, i⟩ := s
  cases changes with
  | nil =>
    refine iff_of_false nofun ?_
    rintro ⟨hne, has, -⟩
    exact hne (List.map_eq_nil_iff.mp has.symm)
  | cons change rest =>
    rw [build, List.isEmpty_cons, if_neg Bool.false_ne_true, map_eq_ok]
    simp only [resolve_eq_ok_iff, mk.injEq]
    constructor
    · rintro ⟨as, has, rfl, rfl⟩
      refine ⟨?_, has, rfl⟩
      rintro rfl
      cases has
    · rintro ⟨-, has, rfl⟩
      exact ⟨as, has, rfl, rfl⟩

theorem exists_build_iff {id : Value} {changes : List (Text × Value)} :
    (∃ s, build id changes = .ok s)
      ↔ changes ≠ [] ∧ ∀ change ∈ changes, Column.IsName change.1 := by
  cases changes with
  | nil => exact iff_of_false nofun (fun h => h.1 rfl)
  | cons change rest =>
    rw [build, List.isEmpty_cons, if_neg Bool.false_ne_true, resolve_eq_mapM]
    simp only [map_eq_ok, ne_eq, reduceCtorEq, not_false_eq_true, true_and,
      ← exists_assignment_iff, ← exists_forall₂_iff, mapM_eq_ok]
    constructor
    · rintro ⟨s, as, has, rfl⟩
      exact ⟨as, has⟩
    · rintro ⟨as, has⟩
      exact ⟨⟨as, id⟩, as, has, rfl⟩

theorem build_eq_noColumns_iff {id : Value} {changes : List (Text × Value)} :
    build id changes = .error .noColumns ↔ changes = [] := by
  cases changes with
  | nil => exact iff_of_true rfl rfl
  | cons change rest =>
    rw [build, List.isEmpty_cons, if_neg Bool.false_ne_true, map_eq_error, resolve_eq_error_iff]
    exact iff_of_false nofun nofun

theorem build_eq_unknownColumn_iff {id : Value} {changes : List (Text × Value)} {name : Text} :
    build id changes = .error (.unknownColumn name) ↔ FirstUnknown changes name := by
  cases changes with
  | nil => simp [build, FirstUnknown]
  | cons change rest =>
    rw [build, List.isEmpty_cons, if_neg Bool.false_ne_true, map_eq_error, resolve_eq_error_iff]
    simp only [UpdateError.unknownColumn.injEq]
    constructor
    · rintro ⟨_, rfl, h⟩
      exact h
    · intro h
      exact ⟨name, rfl, h⟩

/-! ## Parameters -/

section

variable (position : Nat) (as : List (Column × Value))

theorem parameterName_injective {m n : Nat} (h : parameterName m = parameterName n) : m = n := by
  have hdigits := (List.append_cancel_left h : Text.ofNat m = Text.ofNat n)
  rw [← Text.digitsValue_ofNat m, hdigits, Text.digitsValue_ofNat]

theorem assignmentParameters_eq :
    assignmentParameters position as
      = (as.zipIdx position).map fun x => ⟨parameterName x.2, x.1.2, x.1.1.type⟩ := by
  induction as generalizing position with
  | nil => rfl
  | cons a as ih =>
    rw [assignmentParameters, ih, List.zipIdx_cons, List.map_cons]

/-- The texts are made of the names of the columns and of nothing else. -/
theorem assignmentTexts_eq :
    assignmentTexts position as
      = ((names as).zipIdx position).map fun x =>
        x.1 ++ Text.ofString " = :" ++ parameterName x.2 := by
  induction as generalizing position with
  | nil => rfl
  | cons a as ih =>
    rw [assignmentTexts, ih]
    rfl

end

/-- Neither the values nor the id get into the text. -/
theorem text_eq_of_names {s s' : UpdateStatement} (h : names s.assignments = names s'.assignments) :
    s.text = s'.text := by
  have hlength : s.assignments.length = s'.assignments.length := by
    have hnames := congrArg List.length h
    rwa [names, names, List.length_map, List.length_map] at hnames
  rw [text, text, assignmentTexts_eq, assignmentTexts_eq, h, hlength]

/-- The parameters are named in order from one. -/
theorem map_name_parameters (s : UpdateStatement) :
    s.parameters.map Parameter.name
      = (List.range' 1 (s.assignments.length + 1)).map parameterName := by
  rw [parameters, assignmentParameters_eq, List.map_append, List.map_map, List.range'_concat,
    List.map_append, ← List.zipIdx_map_snd 1 s.assignments, List.map_map, Nat.one_mul,
    Nat.add_comm 1]
  rfl

theorem nodup_names (s : UpdateStatement) : (s.parameters.map Parameter.name).Nodup := by
  rw [map_name_parameters]
  exact List.Nodup.map (fun _ _ => parameterName_injective) List.nodup_range'

def parameter? (ps : List Parameter) (name : Text) : Option Parameter :=
  ps.find? fun p => p.name == name

theorem parameter?_of_mem {ps : List Parameter} (h : (ps.map Parameter.name).Nodup) {p : Parameter}
    (hp : p ∈ ps) : parameter? ps p.name = some p := by
  induction ps with
  | nil => cases hp
  | cons q ps ih =>
    rw [List.map_cons, List.nodup_cons] at h
    rw [parameter?, List.find?_cons]
    rcases List.mem_cons.mp hp with rfl | hp
    · rw [beq_self_eq_true]
    · have hne : q.name ≠ p.name := fun he => h.1 (he ▸ List.mem_map_of_mem hp)
      rw [beq_eq_false_iff_ne.mpr hne]
      exact ih h.2 hp

theorem parameter?_of_mem_zipIdx (s : UpdateStatement) {x : (Column × Value) × Nat}
    (h : x ∈ s.assignments.zipIdx 1) :
    parameter? s.parameters (parameterName x.2)
      = some ⟨parameterName x.2, x.1.2, x.1.1.type⟩ := by
  refine parameter?_of_mem (p := ⟨_, _, _⟩) s.nodup_names (List.mem_append_left _ ?_)
  rw [assignmentParameters_eq]
  exact List.mem_map.mpr ⟨x, h, rfl⟩

/-- The name at the place of an assignment is that of its value. -/
theorem parameter?_parameters (s : UpdateStatement) {i : Nat} (h : i < s.assignments.length) :
    parameter? s.parameters (parameterName (i + 1))
      = some ⟨parameterName (i + 1), s.assignments[i].2, s.assignments[i].1.type⟩ := by
  have hmem : (s.assignments[i], i + 1) ∈ s.assignments.zipIdx 1 := by
    rw [List.mk_mem_zipIdx_iff_le_and_getElem?_sub]
    exact ⟨Nat.le_add_left 1 i, List.getElem?_eq_getElem h⟩
  exact parameter?_of_mem_zipIdx s hmem

/-- The last name is that of the id. -/
theorem parameter?_parameters_last (s : UpdateStatement) :
    parameter? s.parameters (parameterName (s.assignments.length + 1))
      = some ⟨parameterName (s.assignments.length + 1), s.id, Column.identityId.type⟩ :=
  parameter?_of_mem (p := ⟨_, _, _⟩) s.nodup_names (List.mem_append_right _ List.mem_cons_self)

/-! ## Reading the text -/

/-- Reads the column and the parameter of an assignment, which may have blanks in front. -/
def readAssignment? (t : Text) : Option (Text × Text) :=
  Text.splitFirst? (Text.ofString " = :") (t.dropWhile fun c => c.is ' ')

/-- Reads the text of an update statement: the assignments, each a column and the name of a
parameter, and the name of the parameter for the id. -/
def readText? (t : Text) : Option (List (Text × Text) × Text) := do
  let t ← Text.dropPrefix? (Text.ofString "UPDATE identity SET ") t
  let parts ← Text.splitFirst? (Text.ofString " WHERE identity_id = :") t
  let assignments ← (Text.splitOn (CodePoint.ofChar ',') parts.1).mapM readAssignment?
  return (assignments, parts.2)

/-- The code point may stand in the name of a column or a parameter: a small letter, a digit or an
underscore. -/
def IsNamePoint (c : CodePoint) : Prop :=
  0x61 ≤ c.val ∧ c.val ≤ 0x7A ∨ 0x30 ≤ c.val ∧ c.val ≤ 0x39 ∨ c.val = 0x5F

instance : DecidablePred IsNamePoint := fun _ => inferInstanceAs (Decidable (_ ∨ _))

theorem isNamePoint_of_mem_name (c : Column) : ∀ x ∈ Text.ofString c.name, IsNamePoint x := by
  have hall : ∀ c ∈ Column.all, ∀ x ∈ Text.ofString c.name, IsNamePoint x := by decide +kernel
  exact hall c (Column.mem_all c)

theorem isNamePoint_of_mem_parameterName (n : Nat) : ∀ x ∈ parameterName n, IsNamePoint x := by
  refine List.forall_mem_append.mpr ⟨by decide, fun x hx => ?_⟩
  exact .inr (.inl (CodePoint.isDigit_iff.mp (Text.ofNat_allDigits n x hx)))

theorem not_mem_of_isNamePoint {t : Text} (h : ∀ x ∈ t, IsNamePoint x) {c : CodePoint}
    (hc : ¬IsNamePoint c) : c ∉ t := fun hmem => hc (h c hmem)

theorem name_ne_nil (c : Column) : Text.ofString c.name ≠ [] := by
  have hall : ∀ c ∈ Column.all, Text.ofString c.name ≠ [] := by decide +kernel
  exact hall c (Column.mem_all c)

theorem readAssignment?_append (c : Column) (parameter : Text) :
    readAssignment? (Text.ofString c.name ++ Text.ofString " = :" ++ parameter)
      = some (Text.ofString c.name, parameter) := by
  have hpoints := isNamePoint_of_mem_name c
  have hcut := Text.splitFirst?_append_separator (a := .ofChar ' ') (b := .ofChar '=') (by decide)
    (not_mem_of_isNamePoint hpoints (by decide)) (Text.ofString " :") parameter
  obtain ⟨x, rest, hname⟩ := List.exists_cons_of_ne_nil (name_ne_nil c)
  rw [hname] at hpoints hcut ⊢
  have hx : x.is ' ' ≠ true := by
    intro hx
    obtain rfl := beq_iff_eq.mp hx
    exact absurd (hpoints _ List.mem_cons_self) (by decide)
  rw [readAssignment?, List.append_assoc, List.cons_append,
    List.dropWhile_cons_of_neg (p := fun c => CodePoint.is c ' ') hx]
  exact hcut

/-- The names of columns with those of their parameters, the first of which has a given position. -/
def targets (position : Nat) (names : List Text) : List (Text × Text) :=
  (names.zipIdx position).map fun x => (x.1, parameterName x.2)

section

variable (position : Nat) (as : List (Column × Value))

theorem mapM_readAssignment?_assignmentTexts :
    (assignmentTexts position as).mapM readAssignment? = some (targets position (names as)) := by
  induction as generalizing position with
  | nil => rfl
  | cons a as ih =>
    rw [assignmentTexts, List.mapM_cons, readAssignment?_append, ih]
    rfl

theorem mapM_readAssignment?_blank (parts : List Text) :
    (parts.map (CodePoint.ofChar ' ' :: ·)).mapM readAssignment? = parts.mapM readAssignment? := by
  rw [List.mapM_map]
  rfl

/-- The code points of an assignment: those of names and of the mark between them. -/
theorem mem_assignmentTexts {t : Text} (ht : t ∈ assignmentTexts position as) {x : CodePoint}
    (hx : x ∈ t) : IsNamePoint x ∨ x ∈ Text.ofString " = :" := by
  rw [assignmentTexts_eq] at ht
  obtain ⟨⟨name, n⟩, hname, rfl⟩ := List.mem_map.mp ht
  obtain ⟨c, rfl⟩ := isName_of_mem_names (List.fst_mem_of_mem_zipIdx hname)
  rcases List.mem_append.mp hx with hx | hx
  · exact (List.mem_append.mp hx).imp_left (isNamePoint_of_mem_name c x)
  · exact .inl (isNamePoint_of_mem_parameterName n x hx)

end

/-- The list of the assignments, as it stands in the text. -/
def assignmentList (as : List (Column × Value)) : Text :=
  ((assignmentTexts 1 as).intersperse (Text.ofString ", ")).flatten

theorem not_mem_assignmentList (as : List (Column × Value)) : .ofChar 'W' ∉ assignmentList as := by
  intro h
  obtain ⟨t, ht, hx⟩ := List.mem_flatten.mp h
  rcases Text.mem_of_mem_intersperse ht with rfl | ht
  · exact absurd hx (by decide)
  · exact absurd (mem_assignmentTexts 1 as ht hx) (by decide)

theorem mapM_readAssignment?_assignmentList {as : List (Column × Value)} (h : as ≠ []) :
    (Text.splitOn (.ofChar ',') (assignmentList as)).mapM readAssignment?
      = some (targets 1 (names as)) := by
  have hcomma : ∀ t ∈ assignmentTexts 1 as, ∀ x ∈ t, x.is ',' = false := by
    intro t ht x hx
    refine beq_eq_false_iff_ne.mpr ?_
    rintro rfl
    exact absurd (mem_assignmentTexts 1 as ht hx) (by decide)
  have hread := mapM_readAssignment?_assignmentTexts 1 as
  obtain ⟨t, parts, ht⟩ : ∃ t parts, assignmentTexts 1 as = t :: parts := by
    cases as with
    | nil => exact absurd rfl h
    | cons a as => exact ⟨_, _, rfl⟩
  rw [assignmentList]
  rw [ht] at hread hcomma ⊢
  obtain ⟨hhead, htail⟩ := List.forall_mem_cons.mp hcomma
  have hblank : ∀ p ∈ parts.map (CodePoint.ofChar ' ' :: ·), ∀ x ∈ p, x.is ',' = false := by
    intro _ hp
    obtain ⟨p, hmem, rfl⟩ := List.mem_map.mp hp
    exact List.forall_mem_cons.mpr ⟨by decide, htail p hmem⟩
  rw [Text.flatten_intersperse_comma, Text.splitOn_intersperse (List.cons_ne_nil _ _)
    (List.forall_mem_cons.mpr ⟨hhead, hblank⟩), List.mapM_cons, mapM_readAssignment?_blank,
    ← List.mapM_cons, hread]

/-- The columns and the parameters are found again in the text. -/
theorem readText?_text {s : UpdateStatement} (h : s.assignments ≠ []) :
    readText? s.text
      = some (targets 1 (names s.assignments), parameterName (s.assignments.length + 1)) := by
  have hbegins : Text.dropPrefix? (Text.ofString "UPDATE identity SET ") s.text
      = some (assignmentList s.assignments ++ (Text.ofString " WHERE identity_id = :"
        ++ parameterName (s.assignments.length + 1))) := by
    rw [Text.dropPrefix?_eq_some_iff, text, assignmentList]
    simp only [List.append_assoc]
  have hcut : Text.splitFirst? (Text.ofString " WHERE identity_id = :")
      (assignmentList s.assignments ++ (Text.ofString " WHERE identity_id = :"
        ++ parameterName (s.assignments.length + 1)))
      = some (assignmentList s.assignments, parameterName (s.assignments.length + 1)) :=
    Text.splitFirst?_append_separator (a := .ofChar ' ') (b := .ofChar 'W') (by decide)
      (not_mem_assignmentList s.assignments) (Text.ofString "HERE identity_id = :") _
  unfold readText?
  simp only [hbegins, hcut, mapM_readAssignment?_assignmentList h, Option.bind_eq_bind,
    Option.bind_some, Option.pure_def]

end UpdateStatement

end Registry
