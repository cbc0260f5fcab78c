import Registry.Identity

/-!
# Patches

A patch is a set of changes to one identity. A field that is present is changed; an empty text is
present and clears what is stored. A patch made of a whole identity has the fields that are not
empty.
-/

namespace Registry

/-- Changes to the identity of an id. -/
structure Patch where
  id : Text
  detail : Detail → Option Text
  dob : Option UtcTime
  metadata : Option Inputs

namespace Patch

def blank : Patch := ⟨[], fun _ => none, none, none⟩

/-- The columns that a patch has fields for. -/
def columns : List Column := Column.identityId :: Column.updatable ++ [Column.metadata]

def textValue : Option Text → Value
  | none => .null
  | some t => .text t

/-- The value of a field, null if it is absent. -/
def get (p : Patch) : Column → Value
  | .identityId => .text p.id
  | .detail a => textValue (p.detail a)
  | .dob => utcValue p.dob
  | .createdAt => .null
  | .metadata => metadataValue p.metadata

def withDetail (p : Patch) (a : Detail) (t : Option Text) : Patch :=
  { p with detail := fun b => if b = a then t else p.detail b }

def readOptionalText (name : Text) (v : Value) : Except InputFailure (Option Text) :=
  match v with
  | .null => .ok none
  | v => (readTextField name v).map some

def set (p : Patch) (c : Column) (v : Value) : Except InputFailure Patch :=
  match c with
  | .identityId => (readTextField c.name v).map fun t => { p with id := t }
  | .detail a => (readOptionalText c.name v).map (p.withDetail a)
  | .dob => (readDateField c.name v).map fun d => { p with dob := d }
  | .createdAt => .ok p
  | .metadata => (readMetadataField c.name v).map fun m => { p with metadata := m }

/-- The error of inputs without an id. -/
def missingId (inputs : Inputs) : List FieldError :=
  match inputs.get? Column.identityId.name with
  | some _ => []
  | none => [⟨[.name Column.identityId.name], .missing⟩]

/-- The patch of named inputs, of which the id is required; other names are passed over. -/
def ofInputs (inputs : Inputs) : Except InputFailure Patch :=
  inputs.fill (fun c p v => p.set c v) (fun c => Text.ofString c.name) columns blank
    (missingId inputs)

/-- A value counts as absent in an identity: nothing, or the empty text. -/
def isZero (v : Value) : Bool := v == .null || v == .text []

/-- The patch of an identity: its updatable fields that are not empty, and its metadata. -/
def ofIdentity (i : Identity) : Except InputFailure Patch :=
  ofInputs ((Text.ofString Column.identityId.name, i.get .identityId)
    :: (Text.ofString Column.metadata.name, i.get .metadata)
    :: (Column.updatable.filter fun c => !isZero (i.get c)).map fun c =>
      (Text.ofString c.name, i.get c))

/-- The columns that a patch changes and their new values, in canonical order, metadata last. -/
def changes (p : Patch) : List (Column × Value) :=
  ((Column.updatable ++ [Column.metadata]).filter fun c => p.get c != .null).map fun c =>
    (c, p.get c)

def isEmpty (p : Patch) : Bool := p.changes.isEmpty

end Patch

end Registry
