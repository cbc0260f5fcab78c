import Registry.Binary64.Extended
import Registry.Binary64.Notation
import Registry.Text

/-!
# Numerals of the table

The table reads numbers from texts and writes them as texts. Both go by way of extended numbers, and
only the first eighteen or nineteen digits of a text count, so a number that is read is not always
the nearest one to its text, and one that is written is not always rounded at its exact value.
-/

namespace Registry

/-- A number as it is written: digits, perhaps a point with digits behind it, and perhaps an
exponent. -/
structure StoredNumeral where
  negative : Bool
  whole : Text
  fraction : Option Text
  exponent : Option (Bool × Text)

namespace StoredNumeral

/-! ## Reading -/

/-- The white space around a number in a text. -/
def isSpace (c : CodePoint) : Bool := c.val == 0x20 || (0x09 ≤ c.val && c.val ≤ 0x0D)

/-- Whether the sign of a text is a minus, and the text without its sign. -/
def splitSign (t : Text) : Bool × Text :=
  if t.head?.any (CodePoint.is · '-') then (true, t.drop 1)
  else if t.head?.any (CodePoint.is · '+') then (false, t.drop 1)
  else (false, t)

/-- The digits at the beginning of a text, and what follows them. -/
def splitDigits (t : Text) : Text × Text :=
  (t.takeWhile CodePoint.isDigit, t.dropWhile CodePoint.isDigit)

/-- The numeral that a text is. There are digits on some side of the point, and in the exponent. -/
def ofText? (t : Text) : Option StoredNumeral :=
  let (negative, t) := splitSign (t.trim isSpace)
  let (whole, t) := splitDigits t
  let (fraction, t) :=
    if t.head?.any (CodePoint.is · '.') then
      let (digits, rest) := splitDigits (t.drop 1)
      (some digits, rest)
    else (none, t)
  if whole.isEmpty && (fraction.getD []).isEmpty then none
  else
    match t with
    | [] => some ⟨negative, whole, fraction, none⟩
    | c :: rest =>
      let (below, rest) := splitSign rest
      if c.asciiLower.is 'e' && !rest.isEmpty && rest.all CodePoint.isDigit then
        some ⟨negative, whole, fraction, some (below, rest)⟩
      else none

/-- No digit follows a significand that is not below this. -/
def significandLimit : Nat := 922337203685477579

/-- A significand with the digits before the point, and how many of them have no place in it. -/
def wholeDigits (t : Text) : Nat × Nat :=
  t.foldl
    (fun (n, left) c =>
      if n < significandLimit then (10 * n + CodePoint.digitValue c, left) else (n, left + 1))
    (0, 0)

/-- A significand with more digits, and how many of them have a place in it. -/
def fractionDigits (start : Nat) (t : Text) : Nat × Nat :=
  t.foldl
    (fun (n, taken) c =>
      if n < significandLimit then (10 * n + CodePoint.digitValue c, taken + 1) else (n, taken))
    (start, 0)

/-- The exponent that digits are; one of many digits does not grow further. -/
def exponentValue (t : Text) : Nat :=
  t.foldl (fun e c => if e < 10000 then 10 * e + Text.digitsValue [c] else 10000) 0

/-- A significand without zeros at its end, as far as a negative exponent makes up for them. -/
def dropZeros : (exponent : Nat) → (n : Nat) → Nat × Nat
  | 0, n => (n, 0)
  | e + 1, n => if n % 10 = 0 then dropZeros e (n / 10) else (n, e + 1)

/-- A significand with zeros at its end, as far as it has a place for those of a positive exponent.
-/
def addZeros : (exponent : Nat) → (n : Nat) → Nat × Nat
  | 0, n => (n, 0)
  | e + 1, n => if n ≤ significandLimit then addZeros e (n * 10) else (n, e + 1)

/-- The greatest power of ten below all others in one step; a greater one takes two. -/
def hugePower : Magnitude := (Magnitude.ofDecimal? 1 308).getD 0

/-- The largest exponent of one step. -/
def stepLimit : Nat := 307

/-- From this exponent on a number is infinite or zero. -/
def exponentLimit : Nat := 342

/-- A significand times a power of ten. -/
def raised (n e : Nat) : Option Magnitude :=
  let (n, e) := addZeros e n
  if e = 0 then Magnitude.nearest? (n * Magnitude.unitsPerOne) 1
  else if e ≤ stepLimit then ((Extended.ofNat n).mul (Extended.powerOfTen e)).toMagnitude?
  else if e < exponentLimit then
    ((Extended.ofNat n).mul (Extended.powerOfTen (e - 308))).toMagnitude?.bind fun m =>
      Magnitude.nearest? (m.units * hugePower.units) Magnitude.unitsPerOne
  else none

/-- A significand divided by a power of ten. -/
def lowered (n e : Nat) : Option Magnitude :=
  let (n, e) := dropZeros e n
  if e = 0 then Magnitude.nearest? (n * Magnitude.unitsPerOne) 1
  else if e ≤ stepLimit then ((Extended.ofNat n).div (Extended.powerOfTen e)).toMagnitude?
  else if e < exponentLimit then
    ((Extended.ofNat n).div (Extended.powerOfTen (e - 308))).toMagnitude?.bind fun m =>
      Magnitude.nearest? (m.units * Magnitude.unitsPerOne) hugePower.units
  else some 0

/-- The number that a numeral is read as. -/
def value (x : StoredNumeral) : Binary64 :=
  let (n, left) := wholeDigits x.whole
  let (n, taken) := fractionDigits n (x.fraction.getD [])
  let written : Int :=
    match x.exponent with
    | some (below, digits) => if below then -(exponentValue digits : Int) else exponentValue digits
    | none => 0
  let e : Int := written + left - taken
  Binary64.ofMagnitude? x.negative <|
    if n = 0 then some 0 else if 0 ≤ e then raised n e.toNat else lowered n (-e).toNat

/-- The integer that a numeral is, if it has neither a point nor an exponent. -/
def int? (x : StoredNumeral) : Option Int :=
  if x.fraction.isSome || x.exponent.isSome then none
  else
    let n : Int := Text.digitsValue x.whole
    some (if x.negative then -n else n)

/-! ## Writing -/

/-- How many digits a written number has at most. -/
def digitCount : Nat := 15

/-- What is added to a number between one and ten to round its digits: half a unit of the last one,
itself a rounded product of numbers of the format binary64. -/
def rounder : Extended :=
  let half := (Magnitude.ofDecimal? 5 (-5)).getD 0
  let unit := (Magnitude.ofDecimal? 1 (-10)).getD 0
  Extended.ofMagnitude
    ((Magnitude.nearest? (half.units * unit.units) Magnitude.unitsPerOne).getD 0)

/-- A scale and its power of ten, multiplied by `10 ^ places` as often as a number is not below the
product. -/
def grow (x : Extended) (places : Nat) : (fuel : Nat) → Extended × Int → Extended × Int
  | 0, s => s
  | fuel + 1, (scale, e) =>
    let next := (Extended.ofDecimal 1 places).mul scale
    if next.le x then grow x places fuel (next, e + places) else (scale, e)

/-- A number below a bound times `10 ^ places`, as often as that holds, and its power of ten. -/
def lift (bound : Extended) (places : Nat) : (fuel : Nat) → Extended × Int → Extended × Int
  | 0, s => s
  | fuel + 1, (x, e) =>
    if bound.le x then (x, e)
    else lift bound places fuel (x.mul (Extended.ofDecimal 1 places), e - places)

/-- A positive number as one between one and ten with a power of ten. -/
def normalized (m : Magnitude) : Extended × Int :=
  let x := Extended.ofMagnitude m
  let (scale, e) := grow x 1 10 (grow x 10 10 (grow x 100 4 (Extended.ofNat 1, 0)))
  lift (Extended.ofNat 1) 1 8 (lift (Extended.ofDecimal 1 (-8)) 8 42 (x.div scale, e))

/-- A positive number with its digits rounded. -/
def roundedDigits (m : Magnitude) : Extended × Int :=
  let (x, e) := normalized m
  let x := x.add rounder
  if (Extended.ofNat 10).le x then (x.mul (Extended.ofDecimal 1 (-1)), e + 1) else (x, e)

/-- The digits of a number below ten, the first before the point. -/
def digits : (count : Nat) → Extended → Text
  | 0, _ => []
  | count + 1, x =>
    CodePoint.ofHexDigit x.floor :: digits count (x.fractional.mul (Extended.ofNat 10))

/-- The text of a positive number: with a fraction, and with an exponent only where the point would
be far away. -/
def magnitudeText (m : Magnitude) : Text :=
  let (x, e) := roundedDigits m
  let shown := Text.dropEndZeros (digits digitCount x)
  if -4 ≤ e ∧ e < digitCount then Numeral.full.layout shown (e + 1)
  else
    shown.take 1 ++ Text.ofString "." ++ (if shown.length ≤ 1 then Text.zeros 1 else shown.drop 1)
      ++ Numeral.exponentText e

/-- The text that a number is stored as; zero has no sign. -/
def text : Binary64 → Text
  | .nan _ => []
  | .infinite negative => Binary64.signText negative ++ Text.ofString "Inf"
  | .finite negative m =>
    if m.units = 0 then Text.ofString "0.0" else Binary64.signText negative ++ magnitudeText m

end StoredNumeral

end Registry
