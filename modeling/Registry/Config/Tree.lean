import Registry.Config.Schema

/-!
# Configuration trees

A configuration as it is put together: models with named fields, each a value or a model again.
Models are made of inputs by reading them (`ConfigTree.ofInputs`), and a field can be assigned later
without being read, so a tree may hold anything. A model knows which of its fields were given or
assigned explicitly; beside them it may hold private ones.

`plain` is a tree as a value, `explicit` the part of it that was set explicitly.
-/

namespace Registry

/-- The kind of a model: the whole configuration or a section. -/
inductive ModelKind
  | config
  | part (s : Section)
deriving DecidableEq

def ModelKind.label : ModelKind → String
  | config => "ConfigData"
  | part s => s.modelName

def ModelKind.name (k : ModelKind) : Text := Text.ofString k.label

/-- A value, or a model with its fields and the names of those set explicitly. -/
inductive ConfigTree
  | leaf (v : Value)
  | model (kind : ModelKind) (fields : List (Text × ConfigTree)) (explicit : List Text)


namespace ConfigTree

instance : Inhabited ConfigTree := ⟨leaf .null⟩

def isModel : ConfigTree → Bool
  | leaf _ => false
  | model .. => true

abbrev ModelInputs := List (Text × ConfigTree)

def input? (inputs : ModelInputs) (name : Text) : Option ConfigTree :=
  (inputs.find? fun (n, _) => n == name).map (·.2)

/-! ## Making models of inputs -/

def readSetting (kind : SettingKind) : ConfigTree → Except FieldFault Value
  | leaf v => kind.read v
  | model .. => .error kind.kindFault

/-- Reads settings in order, with the errors of all that refuse their inputs. -/
def readSettings (inputs : ModelInputs) :
    List Setting → Except (List FieldError) (List (Text × ConfigTree))
  | [] => .ok []
  | s :: rest =>
    let read : Except FieldFault Value :=
      match input? inputs s.name with
      | some v => readSetting s.kind v
      | none => .ok s.default
    match read, readSettings inputs rest with
    | .ok v, .ok fields => .ok ((s.name, leaf v) :: fields)
    | .ok _, .error errors => .error errors
    | .error fault, .ok _ => .error [⟨[.name s.name], fault⟩]
    | .error fault, .error errors => .error (⟨[.name s.name], fault⟩ :: errors)

/-- The names of fields for which there are inputs. -/
def givenNames (inputs : ModelInputs) (names : List Text) : List Text :=
  names.filter fun n => (input? inputs n).isSome

/-- The model of a section of inputs; other names are passed over. -/
def section? (s : Section) (inputs : ModelInputs) : Except (List FieldError) ConfigTree :=
  (readSettings inputs s.settings).map fun fields =>
    model (.part s) fields (givenNames inputs (s.settings.map (·.name)))

/-- The entries of a mapping whose keys are texts. -/
def namedEntries (entries : List (Value × Value)) : ModelInputs :=
  entries.filterMap fun
    | (.text name, v) => some (name, leaf v)
    | _ => none

/-- Reads a section: a model of it is kept, and a mapping makes one. -/
def readSection (s : Section) (t : ConfigTree) : Except (List FieldError) ConfigTree :=
  match t with
  | model kind fields explicit =>
    if kind = .part s then .ok (model kind fields explicit) else .error [⟨[], .sectionKind⟩]
  | leaf (.dict entries) => section? s (namedEntries entries)
  | leaf _ => .error [⟨[], .sectionKind⟩]

/-- The model of a section of no inputs. -/
def standardSection (s : Section) : ConfigTree :=
  model (.part s) (s.settings.map fun x => (x.name, leaf x.default)) []

/-- Reads sections in order, with the errors of all that refuse their inputs. -/
def readSections (inputs : ModelInputs) :
    List Section → Except (List FieldError) (List (Text × ConfigTree))
  | [] => .ok []
  | s :: rest =>
    let read : Except (List FieldError) ConfigTree :=
      match input? inputs s.name with
      | some t => (readSection s t).mapError fun es => es.map (FieldError.under s.name)
      | none => .ok (standardSection s)
    match read, readSections inputs rest with
    | .ok t, .ok fields => .ok ((s.name, t) :: fields)
    | .ok _, .error errors => .error errors
    | .error errors, .ok _ => .error errors
    | .error errors, .error more => .error (errors ++ more)

/-- The model of a kind of inputs. -/
def ofInputs (kind : ModelKind) (inputs : ModelInputs) : Except (List FieldError) ConfigTree :=
  match kind with
  | .part s => section? s inputs
  | .config =>
    (readSections inputs Section.all).map fun fields =>
      model .config fields (givenNames inputs (Section.all.map (·.name)))

/-- The configuration with nothing given. -/
def standard : ConfigTree :=
  model .config (Section.all.map fun s => (s.name, standardSection s)) []

/-! ## Fields -/

/-- A name that begins with an underscore is private: it stands for no setting. -/
def isPrivate (name : Text) : Bool := name.head?.any (CodePoint.is · '_')

/-- Puts a tree under a name: in the place of the field, or as a new one. -/
def putField (fields : List (Text × ConfigTree)) (name : Text) (t : ConfigTree) :
    List (Text × ConfigTree) :=
  match fields with
  | [] => [(name, t)]
  | (n, old) :: rest => if n = name then (n, t) :: rest else (n, old) :: putField rest name t

/-! ## Trees as values -/

mutual

/-- The tree as a value: a model is the mapping of its fields. -/
def plain : ConfigTree → Value
  | leaf v => v
  | model _ fields _ => .dict (plainFields fields)

/-- Fields as the entries of a mapping; private ones are none. -/
def plainFields : List (Text × ConfigTree) → List (Value × Value)
  | [] => []
  | (name, t) :: rest =>
    if isPrivate name then plainFields rest else (.text name, plain t) :: plainFields rest

end

mutual

/-- The entries of a tree that were set explicitly; a value has none. -/
def explicit : ConfigTree → List (Value × Value)
  | leaf _ => []
  | model _ fields names => explicitFields names fields

/-- The fields that were set explicitly or have something inside that was. A model that was set as a
whole counts with all its fields. -/
def explicitFields (names : List Text) : List (Text × ConfigTree) → List (Value × Value)
  | [] => []
  | (name, t) :: rest =>
    if isPrivate name then explicitFields names rest
    else if name ∈ names then (.text name, plain t) :: explicitFields names rest
    else
      match explicit t with
      | [] => explicitFields names rest
      | nested => (.text name, .dict nested) :: explicitFields names rest

end

/-- The tree at the end of a way of names. -/
def get? (t : ConfigTree) : List Text → Option ConfigTree
  | [] => some t
  | name :: rest =>
    match t with
    | leaf _ => none
    | model _ fields _ => (input? fields name).bind fun inner => get? inner rest

end ConfigTree

end Registry
