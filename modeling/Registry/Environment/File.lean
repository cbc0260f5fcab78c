import Registry.Environment
import Registry.Text.Blank

/-!
# Environment files

A file of variables has bindings `NAME=value`, one a line, perhaps after the word `export`. A value
stands in quotes, where it can go on over lines, or goes up to a comment after a blank or to the end
of the line. A name alone is a variable without a value. A line that is none of this is passed over
from where it goes wrong, and so is a byte order mark in front of the first.

In a value a name in braces after a dollar sign stands for the variable of that name in the file so
far or in the environment. Names are compared without regard to case, and an empty value counts as
none.
-/

namespace Registry.EnvironmentFile

/-- A variable with its value, if it has one. -/
structure Binding where
  name : Text
  value : Option Text

/-- What is read and what follows it, or the place where the text goes wrong. -/
abbrev Reading (α : Type) := Except Text (α × Text)

/-- A line feed. -/
def isBreak (c : CodePoint) : Bool := c.val == 0x0A

/-- A blank inside a line. -/
def isInlineBlank (c : CodePoint) : Bool := c.isBlank && !isBreak c

/-- A text without the blanks at the beginning of its line. -/
def dropBlanks (t : Text) : Text := t.dropWhile isInlineBlank

/-- What follows the line at the beginning of a text. -/
def afterLine (t : Text) : Text := (t.dropWhile fun c => !isBreak c).drop 1

/-- The text goes on with a character. -/
def begins (x : Char) (t : Text) : Bool := t.head?.any (CodePoint.is · x)

/-! ## Quotes -/

/-- The text up to a closing quote, and what follows it. What stands after a backslash does
not close. -/
def quoted? (quote : Char) : Text → Option (Text × Text)
  | [] => none
  | [c] => if c.is quote then some ([], []) else none
  | c :: d :: rest =>
    if c.is quote then some ([], d :: rest)
    else if c.is '\\' then (quoted? quote rest).map fun (t, after) => (c :: d :: t, after)
    else (quoted? quote (d :: rest)).map fun (t, after) => (c :: t, after)

/-- What the characters after a backslash stand for between single quotes. -/
def singleEscapes : List (Char × Nat) := [('\\', 0x5C), ('\'', 0x27)]

/-- What the characters after a backslash stand for between double quotes. -/
def doubleEscapes : List (Char × Nat) :=
  [('\\', 0x5C), ('\'', 0x27), ('"', 0x22), ('a', 0x07), ('b', 0x08), ('f', 0x0C), ('n', 0x0A),
    ('r', 0x0D), ('t', 0x09), ('v', 0x0B)]

/-- A text with its escapes replaced; a backslash before another character stays. -/
def unescape (escapes : List (Char × Nat)) : Text → Text
  | [] => []
  | [c] => [c]
  | c :: d :: rest =>
    if c.is '\\' then
      match escapes.find? fun (x, _) => d.is x with
      | some (_, n) => CodePoint.ofNat n :: unescape escapes rest
      | none => c :: unescape escapes (d :: rest)
    else c :: unescape escapes (d :: rest)

/-! ## Bindings -/

/-- What follows the word `export` and blanks, if the text begins with them. -/
def dropExport (t : Text) : Text :=
  match Text.dropPrefix? (Text.ofString "export") t with
  | some rest => if rest.head?.any isInlineBlank then dropBlanks rest else t
  | none => t

/-- A code point of a name without quotes. -/
def isNameUnit (c : CodePoint) : Bool := !(c.is '=' || c.is '#' || c.isBlank)

/-- The name of a variable; a comment has none. -/
def readName (t : Text) : Reading (Option Text) :=
  if begins '#' t then .ok (none, t)
  else if begins '\'' t then
    let name := (t.drop 1).takeWhile fun c => !c.is '\''
    let rest := (t.drop 1).drop name.length
    if name.isEmpty || rest.isEmpty then .error t else .ok (some name, rest.drop 1)
  else
    let name := t.takeWhile isNameUnit
    if name.isEmpty then .error t else .ok (some name, t.drop name.length)

/-- A line up to a number sign after a blank. -/
def beforeComment : (afterBlank : Bool) → Text → Text
  | _, [] => []
  | afterBlank, c :: rest =>
    if afterBlank && c.is '#' then [] else c :: beforeComment c.isBlank rest

/-- The value after the equals sign of a binding, and after blanks if there are any. -/
def readValue (afterBlank : Bool) (t : Text) : Reading Text :=
  let inQuotes (quote : Char) (escapes : List (Char × Nat)) : Reading Text :=
    match quoted? quote (t.drop 1) with
    | some (value, rest) => .ok (unescape escapes value, rest)
    | none => .error t
  if begins '\'' t then inQuotes '\'' singleEscapes
  else if begins '"' t then inQuotes '"' doubleEscapes
  else
    let line := t.takeWhile fun c => !isBreak c
    let kept := (beforeComment afterBlank line).reverse.dropWhile CodePoint.isBlank
    .ok (kept.reverse, t.drop line.length)

/-- What follows a line of which nothing but a comment is left. -/
def readEnd (t : Text) : Except Text Text :=
  let rest := dropBlanks t
  if begins '#' rest then .ok (afterLine rest)
  else if rest.isEmpty || rest.head?.any isBreak then .ok (rest.drop 1)
  else .error t

/-- The binding that a text begins with, if it is not a comment. -/
def readBinding (t : Text) : Except Text (Option Binding × Text) := do
  let (name, rest) ← readName (dropExport t)
  let rest := dropBlanks rest
  let (value, rest) ←
    if begins '=' rest then do
      let source := rest.drop 1
      let (value, rest) ← readValue (source.head?.any isInlineBlank) (dropBlanks source)
      pure (some value, rest)
    else pure (none, rest)
  let rest ← readEnd rest
  return (name.map fun name => ⟨name, value⟩, rest)

/-- The bindings of a text, in order; at most `fuel` lines are read. -/
def readBindings : (fuel : Nat) → Text → List Binding
  | 0, _ => []
  | fuel + 1, t =>
    let t := t.dropWhile CodePoint.isBlank
    if t.isEmpty then []
    else
      match readBinding t with
      | .ok (some b, rest) => b :: readBindings fuel rest
      | .ok (none, rest) => readBindings fuel rest
      | .error rest => readBindings fuel (afterLine rest)

/-- A text without a byte order mark at its beginning. -/
def dropMark (t : Text) : Text := if t.head?.any fun c => c.val == 0xFEFF then t.drop 1 else t

def bindings (t : Text) : List Binding := readBindings (t.length + 1) (dropMark t)

/-! ## References to other variables -/

/-- A reference to a variable: its name, what counts when there is no variable, and its length. -/
structure Reference where
  name : Text
  default : Text
  length : Nat

/-- The reference that a text begins with. -/
def reference? (t : Text) : Option Reference := do
  let inside ← Text.dropPrefix? (Text.ofString "$\x7b") t
  let name := inside.takeWhile fun c => !(c.is '\x7d' || c.is ':')
  let rest := inside.drop name.length
  let (default, rest) :=
    match Text.dropPrefix? (Text.ofString ":-") rest with
    | some more =>
      let default := more.takeWhile fun c => !c.is '\x7d'
      (default, more.drop default.length)
    | none => ([], rest)
  if begins '\x7d' rest then some ⟨name, default, t.length - rest.length + 1⟩ else none

/-- Replaces references; `skip` code points belong to one that has been replaced. -/
def expand (value : Text → Option Text) : (skip : Nat) → Text → Text
  | _, [] => []
  | skip + 1, _ :: rest => expand value skip rest
  | 0, c :: rest =>
    match reference? (c :: rest) with
    | none => c :: expand value 0 rest
    | some r => (value r.name).getD r.default ++ expand value (r.length - 1) rest

/-- Binds a name anew: over the binding that is there, or as the last one. -/
def bind (b : Binding) : List Binding → List Binding
  | [] => [b]
  | old :: rest => if old.name = b.name then b :: rest else old :: bind b rest

/-- The value of a name: of the file so far, where a variable without a value is an empty text, or
of the environment. -/
def valueOf (env : Environment) (done : List Binding) (name : Text) : Option Text :=
  match done.find? fun b => b.name == name with
  | some b => some (b.value.getD [])
  | none => env.get? name

/-- The bindings with their references replaced, no name twice. -/
def resolve (env : Environment) (l : List Binding) : List Binding :=
  l.foldl
    (fun done b => bind ⟨b.name, b.value.map fun t => expand (valueOf env done) 0 t⟩ done)
    []

/-! ## Looking up without regard to case -/

/-- Two names are the same but for case. -/
def sameName (a b : Text) : Bool := a.map CodePoint.asciiLower == b.map CodePoint.asciiLower

/-- The value of the last binding of a name that is not empty. -/
def lookup? (name : Text) (l : List Binding) : Option Text :=
  ((l.filter fun b => sameName b.name name && b.value != some []).getLast?).bind (·.value)

/-- The variables of an environment as bindings. -/
def ofEnvironment (env : Environment) : List Binding :=
  env.map fun (name, value) => ⟨name, some value⟩

/-- The value of a variable in an environment, or else in the text of a file. -/
def value? (env : Environment) (file : Text) (name : Text) : Option Text :=
  (lookup? name (ofEnvironment env)).or (lookup? name (resolve env (bindings file)))

end Registry.EnvironmentFile
