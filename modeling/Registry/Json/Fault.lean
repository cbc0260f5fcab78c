import Registry.Recursion
import Registry.Text.Encoding

/-!
# Faults of JSON texts

Why reading a JSON text stops. A fault is at a place, which the reader gives by what is left of the
text there; `Place.of` turns it into a position, a line and a column. An integer that is too long
and a nesting that is too deep have no place.
-/

namespace Registry.Json

/-- What is wrong at a place of a text. -/
inductive Fault
  | value
  | name
  | colon
  | comma
  | extraData
  | unterminatedString
  | controlCharacter
  | escape
  | unicodeEscape
  | byteOrderMark
deriving DecidableEq

def Fault.message : Fault → String
  | value => "Expecting value"
  | name => "Expecting property name enclosed in double quotes"
  | colon => "Expecting ':' delimiter"
  | comma => "Expecting ',' delimiter"
  | extraData => "Extra data"
  | unterminatedString => "Unterminated string starting at"
  | controlCharacter => "Invalid control character at"
  | escape => "Invalid \\escape"
  | unicodeEscape => "Invalid \\uXXXX escape"
  | byteOrderMark => "Unexpected UTF-8 BOM (decode using utf-8-sig)"

/-- Why reading stops; a fault comes with what is left of the text at its place. -/
inductive Stop
  | fault (f : Fault) (left : Text)
  | longInteger (digits : Nat)
  | nesting
deriving DecidableEq

/-- A place in a text: the number of code points before it, and its line and column from 1. -/
structure Place where
  position : Nat
  line : Nat
  column : Nat
deriving DecidableEq

/-- The place that has a text before it. Only a line feed ends a line. -/
def Place.after (before : Text) : Place where
  position := before.length
  line := before.countP (fun c => c.is '\n') + 1
  column := (before.reverse.takeWhile fun c => !c.is '\n').length + 1

/-- The place of a text where `left` is left. -/
def Place.of (t left : Text) : Place := Place.after (t.take (t.length - left.length))

def Place.text (p : Place) : Text :=
  Text.ofString "line " ++ Text.ofNat p.line ++ Text.ofString " column " ++ Text.ofNat p.column
    ++ Text.ofString " (char " ++ Text.ofNat p.position ++ Text.ofString ")"

/-- The digits that an integer may have in a text. -/
def integerDigitLimit : Nat := 4300

/-- The levels of arrays and objects that a text may have: the recursion limit leaves a call for
each. -/
def nestingLimit : Nat := callsLeft

inductive ReadError
  | fault (f : Fault) (place : Place)
  | longInteger (digits : Nat)
  | encoding (e : DecodeError)
  | kind (name : String)
  | nesting
deriving DecidableEq

def ReadError.message : ReadError → Text
  | fault f place => Text.ofString (f.message ++ ": ") ++ place.text
  | longInteger digits =>
    Text.ofString "Exceeds the limit (4300 digits) for integer string conversion: value has "
      ++ Text.ofNat digits
      ++ Text.ofString " digits; use sys.set_int_max_str_digits() to increase the limit"
  | encoding e => e.message
  | kind name => Text.ofString ("the JSON object must be str, bytes or bytearray, not " ++ name)
  | nesting => "maximum recursion depth exceeded"

def ReadError.ofStop (t : Text) : Stop → ReadError
  | .fault f left => fault f (Place.of t left)
  | .longInteger digits => longInteger digits
  | .nesting => nesting

end Registry.Json
