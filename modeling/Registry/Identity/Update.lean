import Registry.Identity.Column
import Registry.Text.Quoted
import Registry.Value

/-!
# Update statements

The statement that assigns values to columns of the rows with one id. Values stand in parameters and
never in the text: `p1`, `p2` and so on in the order of the columns, the last one for the id.
-/

namespace Registry

inductive UpdateError
  | noColumns
  | unknownColumn (name : Text)
deriving DecidableEq

def UpdateError.message : UpdateError → Text
  | noColumns => "at least one column is required for an update"
  | unknownColumn name => name.quoted

/-- The assignments of an update, in order, and the id of the rows. -/
structure UpdateStatement where
  assignments : List (Column × Value)
  id : Value

namespace UpdateStatement

/-- The columns of named changes, or the first name that is no column. -/
def resolve : List (Text × Value) → Except UpdateError (List (Column × Value))
  | [] => .ok []
  | (name, v) :: rest =>
    match Column.ofName? name with
    | none => .error (.unknownColumn name)
    | some c => (resolve rest).map ((c, v) :: ·)

/-- The statement of named changes, of which there must be one. -/
def build (id : Value) (changes : List (Text × Value)) : Except UpdateError UpdateStatement :=
  if changes.isEmpty then .error .noColumns
  else (resolve changes).map fun assignments => ⟨assignments, id⟩

def parameterName (position : Nat) : Text := Text.ofString "p" ++ Text.ofNat position

/-- The texts of assignments, the first of which has the parameter of a given position. -/
def assignmentTexts : (position : Nat) → List (Column × Value) → List Text
  | _, [] => []
  | position, (c, _) :: rest =>
    (Text.ofString c.name ++ Text.ofString " = :" ++ parameterName position)
      :: assignmentTexts (position + 1) rest

def text (s : UpdateStatement) : Text :=
  Text.ofString "UPDATE identity SET "
    ++ ((assignmentTexts 1 s.assignments).intersperse (Text.ofString ", ")).flatten
    ++ Text.ofString " WHERE identity_id = :" ++ parameterName (s.assignments.length + 1)

structure Parameter where
  name : Text
  value : Value
  type : ColumnType

/-- The parameters of assignments, the first of which has a given position. -/
def assignmentParameters : (position : Nat) → List (Column × Value) → List Parameter
  | _, [] => []
  | position, (c, v) :: rest =>
    ⟨parameterName position, v, c.type⟩ :: assignmentParameters (position + 1) rest

/-- The parameters of a statement, that of the id last. -/
def parameters (s : UpdateStatement) : List Parameter :=
  assignmentParameters 1 s.assignments
    ++ [⟨parameterName (s.assignments.length + 1), s.id, Column.identityId.type⟩]

end UpdateStatement

end Registry
