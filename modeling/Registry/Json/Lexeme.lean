import Registry.Json.Fault
import Registry.Value

/-!
# Strings, numbers and literals of JSON

The parts of a document that hold no other part. Every reader takes a text and gives what it read
and what is left. A string may hold any code point from the space up; the escapes of two adjacent
surrogates are one code point. A number is the longest one that the text begins with.
-/

namespace Registry.Json

/-- What a reader gives: what it read and what is left, or why it stopped. -/
abbrev Step (α : Type) := Except Stop (α × Text)

/-- The white space of documents. -/
def isBlank (c : CodePoint) : Bool :=
  c.val == 0x20 || c.val == 0x09 || c.val == 0x0A || c.val == 0x0D

/-- The text without the white space at its beginning. -/
def skipBlanks (t : Text) : Text := t.dropWhile isBlank

/-! ## Strings -/

/-- What an escape of one character stands for. -/
def unescape? (c : CodePoint) : Option CodePoint :=
  if c.is '"' ∨ c.is '\\' ∨ c.is '/' then some c
  else if c.is 'b' then some (CodePoint.ofNat 8)
  else if c.is 'f' then some (CodePoint.ofNat 12)
  else if c.is 'n' then some '\n'
  else if c.is 'r' then some '\r'
  else if c.is 't' then some '\t'
  else none

/-- The code point that four hexadecimal digits stand for. -/
def hexPoint? (a b c d : CodePoint) : Option CodePoint := do
  let a ← a.hexValue?
  let b ← b.hexValue?
  let c ← c.hexValue?
  let d ← d.hexValue?
  return CodePoint.ofNat (((a * 16 + b) * 16 + c) * 16 + d)

/-- A code point of a string, and whether it was written by its number. -/
structure StringUnit where
  numbered : Bool
  point : CodePoint
deriving DecidableEq

/-- Puts a unit before what the rest of a string is read as. -/
def consUnit (u : StringUnit) : Step (List StringUnit) → Step (List StringUnit)
  | .ok (us, left) => .ok (u :: us, left)
  | .error e => .error e

/-- Reads the units of a string after its opening quote, `opening` being the text from there on. -/
def readUnits (opening : Text) : Text → Step (List StringUnit)
  | [] => .error (.fault .unterminatedString opening)
  | c :: rest =>
    if c.is '"' then .ok ([], rest)
    else if c.is '\\' then
      match rest with
      | [] => .error (.fault .unterminatedString opening)
      | e :: digits =>
        if e.is 'u' then
          match digits with
          | h₁ :: h₂ :: h₃ :: h₄ :: left =>
            match hexPoint? h₁ h₂ h₃ h₄ with
            | some p =>
              if left.isEmpty then .error (.fault .unicodeEscape (e :: digits))
              else consUnit ⟨true, p⟩ (readUnits opening left)
            | none => .error (.fault .unicodeEscape (e :: digits))
          | _ => .error (.fault .unicodeEscape (e :: digits))
        else
          match unescape? e with
          | some x => consUnit ⟨false, x⟩ (readUnits opening digits)
          | none => .error (.fault .escape (c :: rest))
    else if c.val < 0x20 then .error (.fault .controlCharacter (c :: rest))
    else consUnit ⟨false, c⟩ (readUnits opening rest)

/-- The text of the units of a string: two adjacent halves of a surrogate pair that are both written
by their numbers are one code point. -/
def joinUnits : List StringUnit → Text
  | u :: v :: rest =>
    if u.numbered && v.numbered && u.point.isHighSurrogate && v.point.isLowSurrogate then
      CodePoint.ofSurrogates u.point v.point :: joinUnits rest
    else u.point :: joinUnits (v :: rest)
  | [u] => [u.point]
  | [] => []

/-- Reads a string after its opening quote, `opening` being the text from there on. -/
def readString (opening t : Text) : Step Text :=
  match readUnits opening t with
  | .ok (us, left) => .ok (joinUnits us, left)
  | .error e => .error e

/-! ## Numbers -/

structure Number where
  negative : Bool
  whole : Text
  fraction : Option Text
  exponent : Option Int
deriving DecidableEq

/-- The digits at the beginning of a text, and what is left. -/
def takeDigits (t : Text) : Text × Text :=
  (t.takeWhile CodePoint.isDigit, t.dropWhile CodePoint.isDigit)

/-- An optional minus sign, and what is left. -/
def takeMinus (t : Text) : Bool × Text :=
  match t with
  | c :: rest => if c.is '-' then (true, rest) else (false, t)
  | [] => (false, [])

/-- The integral digits: a zero alone, or digits of which the first is not zero. -/
def takeWhole? (t : Text) : Option (Text × Text) :=
  match t with
  | c :: rest =>
    if c.is '0' then some ([c], rest)
    else if c.isDigit then some (takeDigits t)
    else none
  | [] => none

/-- An optional fraction: a point with at least one digit. -/
def takeFraction (t : Text) : Option Text × Text :=
  match t with
  | c :: rest =>
    if c.is '.' && !(takeDigits rest).1.isEmpty then (some (takeDigits rest).1, (takeDigits rest).2)
    else (none, t)
  | [] => (none, [])

/-- An optional sign of an exponent, and what is left. -/
def takeSign (t : Text) : Bool × Text :=
  match t with
  | c :: rest => if c.is '-' then (true, rest) else if c.is '+' then (false, rest) else (false, t)
  | [] => (false, [])

/-- An optional exponent: the letter E and digits that may have a sign. -/
def takeExponent (t : Text) : Option Int × Text :=
  match t with
  | c :: rest =>
    let (negative, rest) := takeSign rest
    let (digits, left) := takeDigits rest
    if (c.is 'e' || c.is 'E') && !digits.isEmpty then
      let n : Int := Text.digitsValue digits
      (some (if negative then -n else n), left)
    else (none, t)
  | [] => (none, [])

/-- The longest number that a text begins with. -/
def takeNumber? (t : Text) : Option (Number × Text) := do
  let (negative, rest) := takeMinus t
  let (whole, rest) ← takeWhole? rest
  let (fraction, rest) := takeFraction rest
  let (exponent, rest) := takeExponent rest
  return (⟨negative, whole, fraction, exponent⟩, rest)

/-- A number without fraction and exponent is an integer, any other a floating-point number. -/
def Number.value (n : Number) : Except Stop Value :=
  match n.fraction, n.exponent with
  | none, none =>
    if integerDigitLimit < n.whole.length then .error (.longInteger n.whole.length)
    else
      let i : Int := Text.digitsValue n.whole
      .ok (.int (if n.negative then -i else i))
  | fraction, exponent =>
    let fraction := fraction.getD []
    .ok (.float (Binary64.ofDecimal n.negative (Text.digitsValue (n.whole ++ fraction))
      (exponent.getD 0 - fraction.length)))

/-! ## Literals -/

/-- The words that stand for values. -/
def literals : List (Text × Value) :=
  [("null", .null), ("true", .bool true), ("false", .bool false), ("NaN", .float (.nan 0)),
    ("Infinity", .float (.infinite false)), ("-Infinity", .float (.infinite true))]

def takeLiteral? (t : Text) : Option (Value × Text) :=
  literals.findSome? fun (word, v) => (Text.dropPrefix? word t).map fun left => (v, left)

def readAtom (t : Text) : Step Value :=
  match takeLiteral? t with
  | some step => .ok step
  | none =>
    match takeNumber? t with
    | some (n, left) => n.value.map fun v => (v, left)
    | none => .error (.fault .value t)

end Registry.Json
