import Registry.Field
import Registry.Refusal

/-!
# Inputs

Named inputs from which a record is made. A record refuses its inputs with the errors of all fields
in the order of the fields, unless a date has an instant that no calendar date at UTC has: that
stops the reading at once. What a record works out of its fields cannot be set.
-/

namespace Registry

/-- Named values. -/
abbrev Inputs := List (Text × Value)

namespace Inputs

def get? (inputs : Inputs) (name : Text) : Option Value :=
  (inputs.find? fun (n, _) => n == name).map (·.2)

end Inputs

inductive InputFailure
  | invalid (errors : List FieldError)
  | beyondCalendar
  | refused (r : Refusal)
deriving DecidableEq

namespace InputFailure

/-- The failure of a single field. -/
def ofFault (name : Text) (fault : FieldFault) : InputFailure := invalid [⟨[.name name], fault⟩]

/-- The failure of a field with errors inside. -/
def ofErrors (name : Text) (errors : List FieldError) : InputFailure :=
  invalid (errors.map (FieldError.under name))

end InputFailure

namespace Inputs

/-- Sets the fields of a record one after the other and collects the errors of those that refuse. -/
def fill (set : α → β → Value → Except InputFailure β) (name : α → Text) (inputs : Inputs) :
    List α → β → List FieldError → Except InputFailure β
  | [], record, [] => .ok record
  | [], _, errors => .error (.invalid errors)
  | field :: rest, record, errors =>
    match inputs.get? (name field) with
    | none => fill set name inputs rest record errors
    | some v =>
      match set field record v with
      | .ok record => fill set name inputs rest record errors
      | .error (.invalid more) => fill set name inputs rest record (errors ++ more)
      | .error e => .error e

end Inputs

def readTextField (name : Text) (v : Value) : Except InputFailure Text :=
  (Field.text v).mapError (.ofFault name)

/-- Reads a date into a field and moves it to UTC. -/
def readDateField (name : Text) (v : Value) : Except InputFailure (Option UtcTime) :=
  match v with
  | .null => .ok none
  | v =>
    match Field.dateTime v with
    | .error fault => .error (.ofFault name fault)
    | .ok d =>
      match d.toUtc? with
      | some u => .ok (some u)
      | none => .error .beyondCalendar

def readMetadataField (name : Text) (v : Value) : Except InputFailure (Option Inputs) :=
  match v with
  | .null => .ok none
  | v => ((Field.mapping v).mapError (.ofErrors name)).map some

end Registry
