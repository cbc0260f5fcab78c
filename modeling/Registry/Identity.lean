import Registry.Identity.Column
import Registry.Input

/-!
# Identities

An identity is the record of a person or an organization. Its dates are readings at UTC, so they are
the same after storing. `Identity.ofInputs` makes one of named inputs; `Identity.assign` sets one
field later, by the same rules.
-/

namespace Registry

/-- The record of a person or an organization. -/
structure Identity where
  id : Text
  detail : Detail → Text
  dob : Option UtcTime
  createdAt : Option UtcTime
  metadata : Option Inputs

def metadataValue : Option Inputs → Value
  | none => .null
  | some entries => .dict (entries.map fun (name, v) => (.text name, v))

/-- The value of an optional reading at UTC. -/
def utcValue : Option UtcTime → Value
  | none => .null
  | some u => .dateTime u.toDateTime

namespace Identity

def blank : Identity := ⟨[], fun _ => [], none, none, none⟩

def get (i : Identity) : Column → Value
  | .identityId => .text i.id
  | .detail a => .text (i.detail a)
  | .dob => utcValue i.dob
  | .createdAt => utcValue i.createdAt
  | .metadata => metadataValue i.metadata

def withDetail (i : Identity) (a : Detail) (t : Text) : Identity :=
  { i with detail := fun b => if b = a then t else i.detail b }

def set (i : Identity) (c : Column) (v : Value) : Except InputFailure Identity :=
  match c with
  | .identityId => (readTextField c.name v).map fun t => { i with id := t }
  | .detail a => (readTextField c.name v).map (i.withDetail a)
  | .dob => (readDateField c.name v).map fun d => { i with dob := d }
  | .createdAt => (readDateField c.name v).map fun d => { i with createdAt := d }
  | .metadata => (readMetadataField c.name v).map fun m => { i with metadata := m }

/-- The identity of named inputs; other names are passed over. -/
def ofInputs (inputs : Inputs) : Except InputFailure Identity :=
  inputs.fill (fun c i v => set i c v) (fun c => Text.ofString c.name) Column.all blank []

/-- Sets the field of a name. Names that begin with an underscore are private and set nothing. -/
def assign (i : Identity) (name : Text) (v : Value) : Except InputFailure Identity :=
  match Column.ofName? name with
  | some c => i.set c v
  | none =>
    if name.head?.any (CodePoint.is · '_') then .ok i
    else if Refusal.workedOut.contains name then
      .error (.refused (Refusal.noSetter "Identity" name))
    else .error (.ofFault name .unknownName)

end Identity

end Registry
