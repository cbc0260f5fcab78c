import Registry.Config.Tree
import Registry.Value.Circular
import Registry.Value.Merge

/-!
# Scopes of a configuration

The current configuration can be overridden inside a block, and blocks can be nested. An override
replaces what was set explicitly on it and nothing else; the result is read again, so no value that
was assigned without being read becomes current. Models are written out before they are merged,
which a value that holds itself does not allow.
-/

namespace Registry

/-- What a block overrides with: nothing, a tree, or a value. Only a configuration will do. -/
inductive Override
  | nothing
  | tree (t : ConfigTree)
  | value (v : Value)

inductive ScopeError
  | notConfig (given : ConfigTree)
  | circular
  | invalid (errors : List FieldError)

namespace ScopeError

/-- The name of the kind of what was given, with the module that it belongs to. -/
def givenKind : ConfigTree → String
  | .leaf v => v.qualifiedKindName
  | .model kind .. => "src.app.runtime.config.config_data." ++ kind.label

/-- The wording of the error for what is no configuration. -/
def notConfigMessage (given : ConfigTree) : Text :=
  Text.ofString
    ("config_override must be ConfigData, or None, got <class '" ++ givenKind given ++ "'>")

/-- The wording of the error for a value that holds itself. -/
def circularMessage : Text := Text.ofString "Circular reference detected (id repeated)"

end ScopeError

namespace ConfigTree

/-- The entries of a value that is a mapping. -/
def entriesOf : Value → List (Value × Value)
  | .dict entries => entries
  | _ => []

mutual

/-- A model that was set as a whole cannot be written out, as a value in it holds itself. -/
def blocked : ConfigTree → Bool
  | leaf _ => false
  | model _ fields names => blockedFields names fields

/-- Some field that is a model cannot be written out. A field that is a value is taken over as it
is. -/
def blockedFields (names : List Text) : List (Text × ConfigTree) → Bool
  | [] => false
  | (name, t) :: rest =>
    (!isPrivate name && (blocked t || names.contains name && t.isModel && t.plain.isCircular))
      || blockedFields names rest

end

/-- A configuration with what was set explicitly on another one, read again. -/
def overriddenBy (base override : ConfigTree) : Except (List FieldError) ConfigTree :=
  ofInputs .config (namedEntries (Value.mergeEntries (entriesOf base.plain) override.explicit))

end ConfigTree

/-- Open blocks: the current configuration, and those of the blocks around it. -/
structure Scope where
  current : ConfigTree
  outer : List ConfigTree

namespace Scope

/-- No open block. -/
def start (base : ConfigTree) : Scope := ⟨base, []⟩

def depth (s : Scope) : Nat := s.outer.length

/-- The current configuration inside a block with an override. -/
def overridden (current : ConfigTree) : Override → Except ScopeError ConfigTree
  | .nothing => .ok current
  | .tree (.model .config fields explicit) =>
    let t := ConfigTree.model .config fields explicit
    if current.plain.isCircular || t.blocked then .error .circular
    else (current.overriddenBy t).mapError .invalid
  | .tree t => .error (.notConfig t)
  | .value v => .error (.notConfig (.leaf v))

def enter (s : Scope) (o : Override) : Except ScopeError Scope :=
  (overridden s.current o).map fun c => ⟨c, s.current :: s.outer⟩

/-- Leaves the innermost block, if one is open. -/
def leave? (s : Scope) : Option Scope :=
  match s.outer with
  | [] => none
  | c :: rest => some ⟨c, rest⟩

end Scope

end Registry
