import Registry.Binary64
import Registry.Text

/-!
# Reading binary64 numbers

A number is written as an optional sign and either `inf`, `infinity` or `nan` in any case, or digits
with an optional point (at least one digit on either side of it) and an optional exponent.
-/

namespace Registry.Binary64

/-- The number nearest to a decimal given by its integral and fractional digits and its exponent. -/
def ofParts (negative : Bool) (whole fraction : Text) (exponent : Int) : Binary64 :=
  ofDecimal negative (Text.digitsValue (whole ++ fraction)) (exponent - fraction.length)

/-- An optional sign, and what follows it. -/
def splitSign : Text → Bool × Text
  | [] => (false, [])
  | c :: rest =>
    if c = CodePoint.ofChar '-' then (true, rest)
    else if c = CodePoint.ofChar '+' then (false, rest)
    else (false, c :: rest)

/-- The exponent that a text is: nothing, or `e` and a signed run of digits. -/
def readExponent? : Text → Option Int
  | [] => some 0
  | c :: rest =>
    if c.asciiLower = CodePoint.ofChar 'e' then
      let (negative, digits) := splitSign rest
      if !digits.isEmpty && digits.all CodePoint.isDigit then
        let n : Int := Text.digitsValue digits
        some (if negative then -n else n)
      else none
    else none

/-- The number that an unsigned text is, under a sign. -/
def readUnsigned? (negative : Bool) (t : Text) : Option Binary64 :=
  let lower := t.map CodePoint.asciiLower
  if lower = Text.ofString "nan" then some (nan 0)
  else if lower = Text.ofString "inf" ∨ lower = Text.ofString "infinity" then
    some (infinite negative)
  else
    let whole := t.takeWhile CodePoint.isDigit
    let rest := t.dropWhile CodePoint.isDigit
    let (fraction, rest) :=
      if rest.head? = some (CodePoint.ofChar '.') then
        ((rest.drop 1).takeWhile CodePoint.isDigit, (rest.drop 1).dropWhile CodePoint.isDigit)
      else ([], rest)
    if whole.isEmpty && fraction.isEmpty then none
    else (readExponent? rest).map (ofParts negative whole fraction)

/-- The number that a text is. -/
def read? (t : Text) : Option Binary64 :=
  let (negative, rest) := splitSign t
  readUnsigned? negative rest

end Registry.Binary64
