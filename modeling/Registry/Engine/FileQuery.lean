import Registry.Binary64.Reader
import Registry.DatabaseUrl
import Registry.Refusal
import Registry.Text.Blank
import Registry.Text.Lowercase
import Registry.Text.Quoted
import Registry.Value.Shown

/-!
# Queries of addresses of files

The query of the address of a database in a file has arguments for its connections and, if the file
is named by a resource identifier, options of that. The former are read in a fixed order, each as
the kind of value that it is; `FileQuery.name` is what is opened, and `Resource.read?` takes the
identifier of a file apart.
-/

namespace Registry

namespace FileQuery

inductive ArgumentKind
  | truth
  | number
  | integer
  | text
deriving DecidableEq

/-- The arguments of connections in the order in which they are read. -/
def arguments : List (String × ArgumentKind) :=
  [("uri", .truth), ("timeout", .number), ("isolation_level", .text), ("detect_types", .integer),
    ("check_same_thread", .truth), ("cached_statements", .integer)]

/-- The words for true and for false. -/
def truthWords : List (String × Bool) :=
  [("true", true), ("yes", true), ("on", true), ("y", true), ("t", true), ("1", true),
    ("false", false), ("no", false), ("off", false), ("n", false), ("f", false), ("0", false)]

/-- The truth value that a text is. -/
def readTruth (t : Text) : Except Refusal Bool :=
  let word : Text := (t.trim CodePoint.isBlank).lower
  match truthWords.find? fun (w, _) => Text.ofString w == word with
  | some (_, b) => .ok b
  | none => .error ⟨.value, Text.ofString "String is not true/false: " ++ word.quoted⟩

/-- Every underscore stands between two digits. -/
def underscoresJoin : (before : Option CodePoint) → Text → Bool
  | _, [] => true
  | before, c :: rest =>
    (!c.is '_' || (before.any CodePoint.isDigit && rest.head?.any CodePoint.isDigit))
      && underscoresJoin (some c) rest

def readNumber (t : Text) : Except Refusal Unit :=
  let plain : Text := t.map fun c => (c.decimalValue?.map CodePoint.ofHexDigit).getD c
  let body := plain.trim CodePoint.isWhiteSpace
  if underscoresJoin none body && (Binary64.read? (body.filter fun c => !c.is '_')).isSome then
    .ok ()
  else .error ⟨.value, Text.ofString "could not convert string to float: " ++ t.quoted⟩

/-- The refusal of several values of an argument. -/
def noSequence (expected : String) : Refusal := Refusal.kind (expected ++ ", not 'tuple'")

/-- Reads the values of an argument. More than one are a sequence, which is true. -/
def readArgument : ArgumentKind → List Text → Except Refusal Bool
  | .truth, [t] => readTruth t
  | .truth, _ => .ok true
  | .number, [t] => (readNumber t).map fun _ => true
  | .number, _ => .error (noSequence "float() argument must be a string or a real number")
  | .integer, [t] =>
    ((Text.readInteger .decimal t).map fun _ => true).mapError fun e => ⟨.value, e.message⟩
  | .integer, _ =>
    .error (noSequence "int() argument must be a string, a bytes-like object or a real number")
  | .text, _ => .ok true

def values? (u : DatabaseUrl) (key : String) : Option (List Text) :=
  (u.query.find? fun (k, _) => k == Text.ofString key).map (·.2)

/-- Reads all arguments, and tells whether the file is named by a resource identifier. -/
def readArguments (u : DatabaseUrl) : List (String × ArgumentKind) → Except Refusal Bool
  | [] => .ok false
  | (name, kind) :: rest =>
    match values? u name with
    | none => readArguments u rest
    | some values => do
      let b ← readArgument kind values
      let others ← readArguments u rest
      return if name = "uri" then b else others

/-- The text of the values of an option: several are shown as a sequence. -/
def optionText : List Text → Text
  | [t] => t
  | ts => (Value.tuple (ts.map .text)).shown

/-- The options of the resource identifier: what is no argument of connections. -/
def options (u : DatabaseUrl) : List (Text × List Text) :=
  let isOption (key : Text) : Bool := !arguments.any fun (name, _) => Text.ofString name == key
  (u.query.filter fun (key, _) => isOption key).mergeSort fun a b => Text.le a.1 b.1

/-- The resource identifier of a file, if the address has a name: the name with the options. -/
def identifier (u : DatabaseUrl) : Except Refusal (Option Text) :=
  let fields := (options u).map fun (key, values) =>
    key ++ Text.ofString "=" ++ optionText values
  match u.database, fields with
  | name, [] => .ok name
  | some name, fields =>
    .ok (some (name ++ Text.ofString "?" ++ (fields.intersperse (Text.ofString "&")).flatten))
  | none, _ =>
    .error (Refusal.kind "unsupported operand type(s) for +=: 'NoneType' and 'str'")

end FileQuery

/-- How a file is opened: made if it is not there, or only if it is there. -/
inductive FileAccess
  | create
  | existing
deriving DecidableEq

/-- The file that a resource identifier leads to: in memory if it has no name, or one that cannot be
opened. -/
inductive Resource
  | memory
  | file (path : Text) (access : FileAccess)
  | nowhere
deriving DecidableEq

namespace Resource

/-- A path or a part of a query with its escapes undone, up to a null. -/
def decoded (t : Text) : Text := (Percent.decode t).takeWhile fun c => c.val != 0

/-- The options of a query, those without names aside. -/
def options (t : Text) : List (Text × Text) :=
  (Text.splitOn (CodePoint.ofChar '&') t).filterMap fun field =>
    let name := field.takeWhile fun c => !c.is '='
    if name.isEmpty then none else some (decoded name, decoded (field.drop (name.length + 1)))

/-- The last value of an option. -/
def option? (options : List (Text × Text)) (name : String) : Option Text :=
  (options.reverse.find? fun (n, _) => n == Text.ofString name).map (·.2)

/-- The value of an option is one of some words, if it is given. -/
def allows (options : List (Text × Text)) (name : String) (words : List String) : Bool :=
  options.all fun (n, v) => n != Text.ofString name || words.any fun w => Text.ofString w == v

/-- A path without the name of the machine in front, which has to be this one. -/
def dropMachine? (t : Text) : Option Text :=
  match Text.dropPrefix? (Text.ofString "//") t with
  | none => some t
  | some rest =>
    let machine := rest.takeWhile fun c => !c.is '/'
    if machine.isEmpty || machine == Text.ofString "localhost" then
      some (rest.drop machine.length)
    else none

def ofPath (path : Text) (access : FileAccess) : Resource :=
  if path.isEmpty || path == Text.ofString ":memory:" then memory else file path access

/-- The file that the name of a file leads to, which is a resource identifier after `file:`. -/
def read (t : Text) : Resource :=
  match Text.dropPrefix? (Text.ofString "file:") t with
  | none => ofPath t .create
  | some rest =>
    match dropMachine? rest with
    | none => nowhere
    | some rest =>
      let rest := rest.takeWhile fun c => !c.is '#'
      let path := rest.takeWhile fun c => !c.is '?'
      let given := options (rest.drop (path.length + 1))
      let known :=
        allows given "mode" ["ro", "rw", "rwc", "memory"]
          && allows given "cache" ["shared", "private"]
          && allows given "vfs" ["unix", "unix-none", "unix-dotfile", "unix-excl", "memdb"]
      if !known then nowhere
      else
        match option? given "mode" with
        | some mode =>
          if mode = Text.ofString "memory" then memory
          else if mode = Text.ofString "rwc" then ofPath (decoded path) .create
          else ofPath (decoded path) .existing
        | none => ofPath (decoded path) .create

end Resource

end Registry
