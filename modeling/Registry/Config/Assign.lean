import Registry.Config.Secret

/-!
# Assigning settings

A way of names leads from a configuration to a setting, and what it leads to is assigned without
being read; only the model that has the setting marks it as set. On its way it may pass through
private fields and through what a model works out of its fields, and it may leave the models: no
value can be changed that way, and the refusal says why.
-/

namespace Registry

/-- Why nothing can be assigned at the end of a way of names. -/
inductive AssignError
  | noField (owner name : Text)
  | refused (r : Refusal)
  | secret (e : SecretError)
deriving DecidableEq

/-- The wording of an error, if it has one of its own. -/
def AssignError.message? : AssignError → Option Text
  | noField owner name =>
    some (Text.ofString "\"" ++ owner ++ Text.ofString "\" object has no field \"" ++ name
      ++ Text.ofString "\"")
  | refused r => some r.message
  | secret e => e.message?

/-- The names of what a model works out of its fields. -/
def ModelKind.computed : ModelKind → List Text
  | part .database => ["password", "connection_string"]
  | _ => []

namespace ConfigTree

def modelOperations : List String :=
  ["construct", "copy", "dict", "from_orm", "json", "model_construct", "model_copy", "model_dump",
    "model_dump_json", "model_json_schema", "model_parametrized_name", "model_post_init",
    "model_rebuild", "model_validate", "model_validate_json", "model_validate_strings",
    "parse_file", "parse_obj", "parse_raw", "schema", "schema_json", "update_forward_refs",
    "validate"]

/-- What every model has besides its fields. -/
def commonMember? (name : Text) : Option Member :=
  if name = Text.ofString "model_extra" then some (.value .null)
  else if name = Text.ofString "model_fields_set" then some (.value (.other .set))
  else if Value.isListed name ["model_config", "model_fields", "model_computed_fields"] then
    some (.value (.dict []))
  else if Value.isListed name modelOperations then some (.thing "method" name name)
  else none

/-- What a model works out of its fields under a name. -/
def computedMember (t : ConfigTree) (h : Host) (name : Text) : Except SecretError Member :=
  let s := DatabaseSettings.ofTree t
  if name = Text.ofString "password" then
    (s.password h).map fun p =>
      .value (match p with
        | some p => .text p
        | none => .null)
  else (s.connectionString h).map fun c => .value (.text c)

/-- The error of a way that leaves a model by a name that is no field of it. -/
def wayError (t : ConfigTree) (kind : ModelKind) (h : Host) (name : Text) (rest : List Text) :
    AssignError :=
  if kind.computed.contains name then
    match t.computedMember h name with
    | .ok m => .refused (m.refusalAt rest)
    | .error e => .secret e
  else
    match commonMember? name with
    | some m => .refused (m.refusalAt rest)
    | none => .refused (t.lacks name)

def assignField (kind : ModelKind) (fields : List (Text × ConfigTree)) (explicit : List Text)
    (name : Text) (v : ConfigTree) : Except AssignError ConfigTree :=
  if isPrivate name then
    if name = Text.ofString "__class__" then
      .error (.refused
        (Refusal.kind ("__class__ must be set to a class, not '" ++ v.kindName ++ "' object")))
    else .ok (model kind (putField fields name v) explicit)
  else
    match input? fields name with
    | some _ => .ok (model kind (putField fields name v) (name :: explicit))
    | none =>
      if (kind.computed ++ Refusal.workedOut).contains name then
        .error (.refused (Refusal.noSetter kind.name name))
      else .error (.noField kind.name name)

/-- Assigns what is at the end of a way of names; only the model that has it marks it as set. -/
def assign (t : ConfigTree) (h : Host) (path : List Text) (v : ConfigTree) :
    Except AssignError ConfigTree :=
  match t, path with
  | t, [] => .ok t
  | leaf w, path => .error (.refused ((Member.value w).refusalAt path))
  | model kind fields explicit, [name] => assignField kind fields explicit name v
  | model kind fields explicit, name :: rest =>
    match input? fields name with
    | some inner =>
      (assign inner h rest v).map fun inner => model kind (putField fields name inner) explicit
    | none => .error (wayError (model kind fields explicit) kind h name rest)

end ConfigTree

end Registry
