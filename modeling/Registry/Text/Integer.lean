import Registry.Text.Blank
import Registry.Text.Quoted
import Registry.Text.Word

/-!
# Integers in texts

An integer is a sign, perhaps the mark of its base, and a run of digits in which single underscores
may stand between digits; white space around it counts for nothing. Decimal digits may be of any
script.
-/

namespace Registry

/-- The bases that integers are written in. -/
inductive Base
  | binary
  | octal
  | decimal
  | hexadecimal
deriving DecidableEq

namespace Base

/-- The number of digits of a base. -/
def size : Base → Nat
  | binary => 2
  | octal => 8
  | decimal => 10
  | hexadecimal => 16

/-- The letter in the mark of a base; the decimal base has no mark. -/
def letter? : Base → Option Char
  | binary => some 'b'
  | octal => some 'o'
  | decimal => none
  | hexadecimal => some 'x'

end Base

inductive IntegerError
  | form (base : Base) (t : Text)
  | long (digits : Nat)
deriving DecidableEq

/-- The wording of an error, in which no more than the beginning of a long text is shown. -/
def IntegerError.message : IntegerError → Text
  | form base t =>
    Text.ofString "invalid literal for int() with base " ++ Text.ofNat base.size
      ++ Text.ofString ": " ++ t.quoted.take 200
  | long n =>
    Text.ofString "Exceeds the limit (4300 digits) for integer string conversion: value has "
      ++ Text.ofNat n
      ++ Text.ofString " digits; use sys.set_int_max_str_digits() to increase the limit"

namespace Text

/-- The value of a digit of a base. -/
def digitOf? (base : Base) (c : CodePoint) : Option Nat :=
  ((c.decimalValue?.or c.hexValue?).filter fun n => n < base.size)

/-- The digits of a run in which single underscores may stand between digits. -/
def digitsOf? (base : Base) : Text → Option (List Nat)
  | [] => none
  | [c] => (digitOf? base c).map fun n => [n]
  | c :: d :: more =>
    (digitOf? base c).bind fun n =>
      if d.is '_' then (digitsOf? base more).map (n :: ·)
      else (digitsOf? base (d :: more)).map (n :: ·)

/-- A text without the mark of a base, and one underscore after it. -/
def dropMark (base : Base) (t : Text) : Text :=
  match base.letter?, t with
  | some letter, z :: x :: rest =>
    if z.decimalValue? == some 0 && x.asciiLower.is letter then
      match rest with
      | c :: more => if c.is '_' then more else rest
      | [] => []
    else t
  | _, _ => t

/-- How many digits a decimal integer may have. -/
def integerLengthLimit : Nat := 4300

/-- The integer that a text is. That it has too many digits counts before anything behind them. -/
def readInteger (base : Base) (t : Text) : Except IntegerError Int :=
  let trimmed := t.trim CodePoint.isWhiteSpace
  let (negative, rest) :=
    match trimmed with
    | c :: rest =>
      if c.is '-' then (true, rest) else if c.is '+' then (false, rest) else (false, trimmed)
    | [] => (false, [])
  let body := dropMark base rest
  let run := body.takeWhile fun c => c.is '_' || (digitOf? base c).isSome
  match digitsOf? base run with
  | none => .error (.form base t)
  | some ns =>
    if base = .decimal ∧ integerLengthLimit < ns.length then .error (.long ns.length)
    else if run.length < body.length then .error (.form base t)
    else
      let n : Nat := ns.foldl (fun n d => base.size * n + d) 0
      .ok (if negative then -(n : Int) else n)

end Text

end Registry
