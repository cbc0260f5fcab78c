import Registry.Config.Tree
import Registry.Host
import Registry.Template
import Registry.Yaml.Document

/-!
# Loading a configuration

A configuration file is a YAML document with variables of the environment in it. The variables of
the active deployment are put over the others first, which lasts: loading leaves another environment
behind. The entry `config` of the document has the inputs of the configuration.
-/

namespace Registry

inductive LoadError
  | file (e : FileError)
  | unnamedVariable
  | template (e : Template.TemplateError)
  | document (e : YamlFault)
  | empty
  | noEntries (v : Value)
  | noInputs (v : Value)
  | unnamedInput
  | invalid (errors : List FieldError)

namespace LoadError

/-- The wording of an error, if it has one of its own. -/
def message? : LoadError → Option Text
  | file _ => none
  | unnamedVariable => none
  | template e => some e.message
  | document .malformed => some (Text.ofString "Error parsing YAML")
  | document e => e.message?
  | empty => some (Text.ofString "Failed to parse YAML")
  | noEntries v =>
    some (Text.ofString ("'" ++ v.qualifiedKindName ++ "' object has no attribute 'get'"))
  | noInputs v =>
    some (Text.ofString
      ("src.app.runtime.config.config_data.ConfigData() argument after ** must be a mapping, not "
        ++ v.qualifiedKindName))
  | unnamedInput => some (Text.ofString "keywords must be strings")
  | invalid _ => some (Text.ofString "Invalid configuration")

end LoadError

namespace ConfigTree

/-- The inputs that the entries of a mapping are, if all keys are texts. -/
def inputsOf? (entries : List (Value × Value)) : Option ModelInputs :=
  entries.mapM fun
    | (.text name, v) => some (name, leaf v)
    | _ => none

/-- How deep a document is looked into: its entries, the sections, their settings and what these
are. -/
def documentDepth : Nat := 4

/-- The name of the entry that holds the inputs. -/
def entryName : Text := "config"

def ofDocument (d : Yaml.Document) : Except LoadError ConfigTree :=
  if d.isEmpty then .error .empty
  else
    match d.value documentDepth with
    | .dict entries =>
      match (Value.lookup? (.text entryName) entries).getD (.dict []) with
      | .dict inputs =>
        match inputsOf? inputs with
        | some inputs => (ofInputs .config inputs).mapError .invalid
        | none => .error .unnamedInput
      | v => .error (.noInputs v)
    | v => .error (.noEntries v)

/-- The configuration that a text is, with variables in it. -/
def ofTemplate (env : Environment) (t : Text) : Except LoadError ConfigTree := do
  let t ← (Template.substitute env t).mapError .template
  match ← (Yaml.Document.ofText t).mapError .document with
  | some d => ofDocument d
  | none => .error .empty

/-- The variable that names the active deployment. -/
def deploymentVariable : Text := "APP_ENVIRONMENT"

/-- The configuration of a file, and the environment after it is loaded. -/
def load (h : Host) (path : Text) : Except LoadError ConfigTree × Environment :=
  match h.files.readText path with
  | .error e => (.error (.file e), h.environment)
  | .ok t =>
    let mode := (h.environment.get? deploymentVariable).getD (Text.ofString "development")
    match h.environment.applyOverrides mode with
    | (env, false) => (.error .unnamedVariable, env)
    | (env, true) => (ofTemplate env t, env)

end ConfigTree

end Registry
