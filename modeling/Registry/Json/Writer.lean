import Registry.Binary64.Shortest
import Registry.Json.Fault
import Registry.Value

/-!
# Writing JSON documents

`write` gives the text of a value: ASCII only, with one space after every comma and colon, entries
in their order. A key that is no text is written as the text of its number or literal. Writing stops
at the first offence in document order, a key coming before its value.
-/

namespace Registry.Json

/-- What in a value has no JSON text. -/
inductive Offence
  | outOfRange
  | kind (name : String)
  | key (name : String)
  | circular
  | longInteger
  | nesting
deriving DecidableEq

def Offence.message : Offence → String
  | outOfRange => "Out of range float values are not JSON compliant"
  | kind name => s!"Object of type {name} is not JSON serializable"
  | key name => s!"keys must be str, int, float, bool or None, not {name}"
  | circular => "Circular reference detected"
  | longInteger =>
    "Exceeds the limit (4300 digits) for integer string conversion; "
      ++ "use sys.set_int_max_str_digits() to increase the limit"
  | nesting => "maximum recursion depth exceeded"

/-! ## Strings -/

/-- The escape of a code point of the basic plane. -/
def hexEscape (n : Nat) : Text := Text.ofString "\\u" ++ Text.hex 4 n

def escapePoint (c : CodePoint) : Text :=
  if c.is '"' then "\\\""
  else if c.is '\\' then "\\\\"
  else if c.is '\n' then "\\n"
  else if c.is '\r' then "\\r"
  else if c.is '\t' then "\\t"
  else if c.val = 12 then "\\f"
  else if c.val = 8 then "\\b"
  else if 0x20 ≤ c.val ∧ c.val ≤ 0x7E then [c]
  else if c.val < 0x10000 then hexEscape c.val
  else
    hexEscape (0xD800 + (c.val - 0x10000) / 0x400) ++ hexEscape (0xDC00 + (c.val - 0x10000) % 0x400)

def writeString (t : Text) : Text :=
  Text.ofString "\"" ++ t.flatMap escapePoint ++ Text.ofString "\""

/-! ## Numbers and keys -/

/-- The digits of an integer, which must not be too many. -/
def writeInt (n : Int) : Except Offence Text :=
  if integerDigitLimit < (Nat.toDigits 10 n.natAbs).length then .error .longInteger
  else .ok (Text.ofInt n)

def writeBinary64 (x : Binary64) : Except Offence Text :=
  if x.isFinite then .ok x.text else .error .outOfRange

def writeBool (b : Bool) : Text := Text.ofString (if b then "true" else "false")

def keyText : Value → Except Offence Text
  | .text t => .ok t
  | .int n => writeInt n
  | .float x => writeBinary64 x
  | .bool b => .ok (writeBool b)
  | .null => .ok "null"
  | v => .error (.key v.qualifiedKindName)

/-! ## Containers -/

/-- The texts of parts with a comma and a space between them. -/
def commaSeparated (parts : List Text) : Text := (parts.intersperse (Text.ofString ", ")).flatten

def bracketed (parts : List Text) : Text :=
  Text.ofString "[" ++ commaSeparated parts ++ Text.ofString "]"

def braced (parts : List Text) : Text :=
  Text.ofString "\x7b" ++ commaSeparated parts ++ Text.ofString "\x7d"

mutual

/-- The text of a value with at most `depth` levels of containers. -/
def writeValue (depth : Nat) : Value → Except Offence Text
  | .null => .ok "null"
  | .bool b => .ok (writeBool b)
  | .int n => writeInt n
  | .float x => writeBinary64 x
  | .text t => .ok (writeString t)
  | .list items =>
    if depth = 0 then .error .nesting else (writeItems (depth - 1) items).map bracketed
  | .tuple items =>
    if depth = 0 then .error .nesting else (writeItems (depth - 1) items).map bracketed
  | .dict entries =>
    if depth = 0 then .error .nesting else (writeEntries (depth - 1) entries).map braced
  | .bytes b => .error (.kind (Value.bytes b).kindName)
  | .dateTime d => .error (.kind (Value.dateTime d).kindName)
  | .date d => .error (.kind (Value.date d).kindName)
  | .other k => .error (.kind (Value.other k).kindName)
  | .enclosing _ => .error .circular

def writeItems (depth : Nat) : List Value → Except Offence (List Text)
  | [] => .ok []
  | v :: rest =>
    match writeValue depth v with
    | .error e => .error e
    | .ok t => (writeItems depth rest).map (t :: ·)

def writeEntries (depth : Nat) : List (Value × Value) → Except Offence (List Text)
  | [] => .ok []
  | (k, v) :: rest =>
    match keyText k with
    | .error e => .error e
    | .ok key =>
      match writeValue depth v with
      | .error e => .error e
      | .ok t =>
        (writeEntries depth rest).map ((writeString key ++ Text.ofString ": " ++ t) :: ·)

end

def write (v : Value) : Except Offence Text := writeValue nestingLimit v

end Registry.Json
