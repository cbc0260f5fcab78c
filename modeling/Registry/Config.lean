import Registry.Config.Tree
import Registry.Repository.ReadTimeout
import Registry.Value.Member

/-!
# Configurations

The settings that the registry works with. Reading inputs makes settings of the right kinds and
nothing else; but on a tree anything can be assigned, a value of another kind to a setting or to a
whole section. What an assigned value allows is kept here: a deployment can have any name, a size
can be any value, and a setting that is used for what it is not comes with the refusal.
-/

namespace Registry

/-! ## Settings as they stand -/

namespace Value

/-- The length of a text, for instance, is not zero: a value counts as one that is there. -/
def isFilled : Value → Bool
  | null => false
  | bool b => b
  | int n => n != 0
  | float x => x.isNonzero
  | text t => !t.isEmpty
  | bytes b => !b.isEmpty
  | list vs => !vs.isEmpty
  | tuple vs => !vs.isEmpty
  | dict es => !es.isEmpty
  | _ => true

end Value

namespace ConfigTree

/-- The name of the kind of what stands in a tree. -/
def kindName : ConfigTree → String
  | leaf v => v.kindName
  | model kind .. => kind.label

/-- The name of the kind of what stands in a tree, with the module that it belongs to. -/
def qualifiedKindName : ConfigTree → String
  | leaf v => v.qualifiedKindName
  | model kind .. => kind.label

/-- What stands in a tree counts as there: a model always does. -/
def isFilled : ConfigTree → Bool
  | leaf v => v.isFilled
  | model .. => true

mutual

/-- How a tree is shown: a model with its fields. -/
def shown : ConfigTree → Text
  | leaf v => v.shown
  | model kind fields _ =>
    listed (kind.label ++ "(") ")" (shownFields fields)

def shownFields : List (Text × ConfigTree) → List Text
  | [] => []
  | (name, t) :: rest =>
    if isPrivate name then shownFields rest
    else (name ++ Text.ofString "=" ++ shown t) :: shownFields rest

end

/-- The text of a tree by itself. -/
def plainText : ConfigTree → Text
  | leaf v => v.plainText
  | model _ fields _ => ((shownFields fields).intersperse (Text.ofString " ")).flatten

def isText (t : ConfigTree) (text : String) : Bool :=
  match t with
  | leaf (.text s) => s == Text.ofString text
  | _ => false

/-- The refusal of what stands in a tree, which has nothing under a name. -/
def lacks (t : ConfigTree) (name : Text) : Refusal :=
  Refusal.noAttribute ("'" ++ t.qualifiedKindName ++ "' object") name

/-- The refusal of what stands in the place of a section: it lacks the first name that it does not
happen to have. -/
def noSection (t : ConfigTree) (names : List Text) : Refusal :=
  let has (name : Text) : Bool :=
    match t with
    | leaf v => (v.member? name).isSome
    | model .. => (t.get? [name]).isSome
  t.lacks ((names.find? fun name => !has name).getD [])

def setting (t : ConfigTree) (name : Text) : ConfigTree := (t.get? [name]).getD (leaf .null)

/-- A tree is the model of a section. -/
def isSection (t : ConfigTree) (s : Section) : Bool :=
  match t with
  | model kind .. => kind == .part s
  | leaf _ => false

end ConfigTree

/-! ## Kinds of settings -/

/-- What a system is run for. -/
inductive Deployment
  | development
  | production
  | test
  | other (t : ConfigTree)

namespace Deployment

def name : Deployment → Text
  | development => "development"
  | production => "production"
  | test => "test"
  | other t => t.plainText

/-- What a deployment was given as. -/
def toTree : Deployment → ConfigTree
  | other t => t
  | d => .leaf (.text d.name)

/-- The deployment of what stands in a tree. -/
def ofTree (t : ConfigTree) : Deployment :=
  if t.isText "development" then development
  else if t.isText "production" then production
  else if t.isText "test" then test
  else other t

/-- The system is one that others rely on. -/
def isProduction : Deployment → Bool
  | production => true
  | _ => false

end Deployment

/-- A text that is asked for, or why what was given is none. -/
abbrev Asked := Except Refusal Text

structure LoggingSettings where
  level : ConfigTree
  format : ConfigTree
  file : ConfigTree
  maxSize : ConfigTree
  backups : ConfigTree

structure DatabaseSettings where
  url : Text
  poolSize : Value
  maxOverflow : Value
  poolTimeout : Value
  poolRecycle : Value
  readTimeout : ReadTimeout
  mode : Deployment
  passwordVariable : Option Asked
  passwordFile : Option Asked

structure AppSettings where
  name : Text
  environment : Deployment

/-- The sections of a configuration, as they stand. -/
structure Config where
  logging : ConfigTree
  database : ConfigTree
  app : ConfigTree

/-! ## Reading settings -/

namespace LoggingSettings

/-- The names that what stands in the place of the section is asked for. -/
def askedNames : List Text := ["format", "level", "file"]

/-- The settings of a section. -/
def ofTree (t : ConfigTree) : Except Refusal LoggingSettings :=
  if t.isSection .logging then
    .ok ⟨t.setting "level", t.setting "format", t.setting "file", t.setting "max_size_mb",
      t.setting "backup_count"⟩
  else .error (t.noSection askedNames)

end LoggingSettings

namespace DatabaseSettings

/-- The name of a variable: a text that is there. -/
def askedVariable (t : ConfigTree) : Option Asked :=
  if !t.isFilled then none
  else
    match t with
    | .leaf (.text name) => some (.ok name)
    | t => some (.error (Refusal.kind ("str expected, not " ++ t.kindName)))

/-- The largest number of a file that is open already. -/
def largestFileNumber : Int := 0x7FFFFFFF

/-- The name of a file: a text or octets. A number stands for a file that is open already, of which
there are none here. -/
def askedFile (t : ConfigTree) : Option Asked :=
  let noPath : Asked :=
    .error (Refusal.kind ("expected str, bytes or os.PathLike object, not " ++ t.kindName))
  let ofNumber (n : Int) : Asked :=
    if n < -largestFileNumber - 1 ∨ largestFileNumber < n then noPath
    else if n < 0 then .error (Refusal.value "negative file descriptor")
    else .error (Refusal.value "Failed to read database password from file.")
  if !t.isFilled then none
  else
    match t with
    | .leaf (.text path) => some (.ok path)
    | .leaf (.bytes path) => some (.ok (Utf8.decodeLossy path))
    | .leaf (.int n) => some (ofNumber n)
    | .leaf (.bool _) => some (ofNumber 1)
    | _ => some noPath

/-- The settings of a section. An address that is no text is none, as the empty text is. -/
def ofTree (t : ConfigTree) : DatabaseSettings where
  url :=
    match t.setting "url" with
    | .leaf (.text url) => url
    | _ => []
  poolSize := (t.setting "pool_size").plain
  maxOverflow := (t.setting "max_overflow").plain
  poolTimeout := (t.setting "pool_timeout").plain
  poolRecycle := (t.setting "pool_recycle").plain
  readTimeout := ReadTimeout.ofValue (t.setting "read_timeout_seconds").plain
  mode := Deployment.ofTree (t.setting "environment_mode")
  passwordVariable := askedVariable (t.setting "password_env_var")
  passwordFile := askedFile (t.setting "password_file")

/-- The settings of what stands in the place of the section, which is asked for a name first. -/
def ofSection (t : ConfigTree) (name : Text) : Except Refusal DatabaseSettings :=
  if t.isSection .database then .ok (ofTree t) else .error (t.noSection [name])

end DatabaseSettings

namespace AppSettings

/-- The settings of what stands in the place of the section, which is asked for a name first. -/
def ofSection (t : ConfigTree) (name : Text) : Except Refusal AppSettings :=
  if t.isSection .app then
    .ok ⟨(t.setting "name").plainText, Deployment.ofTree (t.setting "environment")⟩
  else .error (t.noSection [name])

end AppSettings

namespace Config

def ofTree (t : ConfigTree) : Config :=
  ⟨t.setting Section.logging.name, t.setting Section.database.name, t.setting Section.app.name⟩

end Config

end Registry
