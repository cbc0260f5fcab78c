import Registry.Binary64
import Registry.Text

/-!
# Decimal notations of binary64 numbers

A positive magnitude rounded to a number of decimal digits, exactly and a half to even, and the
notations of it: with a fixed number of places, with an exponent, or with a number of significant
digits and an exponent only where the point would be far away. A `Numeral` says how digits are laid
out: where positional notation ends, how many digits there are at least, and what an integral number
keeps behind its digits.
-/

namespace Registry

/-- The number `digits · 10 ^ exponent`. -/
structure Decimal where
  digits : Nat
  exponent : Int
deriving DecidableEq

def Text.zeros (n : Nat) : Text := List.replicate n (CodePoint.ofChar '0')

/-- A text without the zeros at its end. -/
def Text.dropEndZeros (t : Text) : Text :=
  (t.reverse.dropWhile fun c => c == CodePoint.ofChar '0').reverse

/-! ## Rounding -/

namespace Magnitude

/-- The ratio of a number of units, times a power of ten, to one. -/
def scaledRatio (units : Nat) (power : Int) : Nat × Nat :=
  if 0 ≤ power then (units * Nat.pow 10 power.toNat, unitsPerOne)
  else (units, unitsPerOne * Nat.pow 10 (-power).toNat)

/-- The exponent of the leading decimal digit of a positive number of units. -/
def leadingExponent (units : Nat) : Int :=
  ((Nat.toDigits 10 (units * Nat.pow 10 330 / unitsPerOne)).length : Int) - 331

/-- The decimal of `count` digits nearest to a magnitude. -/
def rounded (m : Magnitude) (count : Nat) : Decimal :=
  let power : Int := count - 1 - leadingExponent m.units
  let (num, den) := scaledRatio m.units power
  ⟨divRound num den, -power⟩

end Magnitude

/-! ## Layout -/

/-- How the digits of a number are laid out. -/
structure Numeral where
  /-- The last place after the start of the digits where the point may stand. -/
  lastPoint : Int
  /-- An integral number keeps a fraction. -/
  keepsFraction : Bool
  /-- The least number of digits; zeros make up for those that are missing. -/
  leastDigits : Nat
  /-- A point is kept with no digit behind it. -/
  keepsPoint : Bool

namespace Numeral

/-- Numbers that can be read back have a fraction and are positional below 10¹⁶. -/
def full : Numeral := ⟨16, true, 0, false⟩

/-- Numbers with some significant digits, zeros at the end left away. -/
def significant (count : Nat) : Numeral := ⟨count, false, 0, false⟩

/-- What follows an integral number. -/
def integralEnd (n : Numeral) : Text :=
  if n.keepsFraction then ".0" else if n.keepsPoint then "." else []

/-- The text of an exponent: a sign and at least two digits. -/
def exponentText (e : Int) : Text :=
  Text.ofString (if e < 0 then "e-" else "e+") ++ Text.padded 2 e.natAbs

/-- Digits behind a point, if there are any or the point is kept. -/
def behindPoint (keepsPoint : Bool) (digits : Text) : Text :=
  if digits.isEmpty && !keepsPoint then [] else CodePoint.ofChar '.' :: digits

/-- Lays out digits without trailing zeros, the decimal point standing `point` places after the
start of the digits. -/
def layout (n : Numeral) (digits : Text) (point : Int) : Text :=
  let digits := digits ++ Text.zeros (n.leastDigits - digits.length)
  if -4 < point ∧ point ≤ n.lastPoint then
    if point ≤ 0 then Text.ofString "0." ++ Text.zeros (-point).toNat ++ digits
    else if (digits.length : Int) ≤ point then
      digits ++ Text.zeros (point.toNat - digits.length) ++ n.integralEnd
    else digits.take point.toNat ++ Text.ofString "." ++ digits.drop point.toNat
  else digits.take 1 ++ behindPoint n.keepsPoint (digits.drop 1) ++ exponentText (point - 1)

/-- The text of a positive decimal. -/
def text (n : Numeral) (d : Decimal) : Text :=
  let all := Text.ofNat d.digits
  n.layout (Text.dropEndZeros all) (all.length + d.exponent)

end Numeral

/-! ## Notations of magnitudes -/

namespace Magnitude

/-- A magnitude with a number of places behind the point. -/
def fixed (m : Magnitude) (places : Nat) (keepsPoint : Bool) : Text :=
  let digits := Text.padded (places + 1) (divRound (m.units * Nat.pow 10 places) unitsPerOne)
  digits.take (digits.length - places)
    ++ Numeral.behindPoint keepsPoint (digits.drop (digits.length - places))

/-- A magnitude as one digit, a number of places behind the point, and an exponent. -/
def scientific (m : Magnitude) (places : Nat) (keepsPoint : Bool) : Text :=
  let (digits, exponent) :=
    if m.units = 0 then (Text.zeros (places + 1), (0 : Int))
    else
      let d := m.rounded (places + 1)
      let all := Text.ofNat d.digits
      (all, (all.length : Int) + d.exponent - 1)
  digits.take 1 ++ Numeral.behindPoint keepsPoint ((digits.drop 1).take places)
    ++ Numeral.exponentText exponent

/-- A magnitude rounded to some significant digits, at least one, and laid out. -/
def general (m : Magnitude) (count : Nat) (n : Numeral) : Text :=
  if m.units = 0 then n.layout (Text.zeros 1) 1 else n.text (m.rounded count)

end Magnitude

namespace Binary64

/-- The minus sign of a negative number. -/
def signText (negative : Bool) : Text := if negative then "-" else []

/-- A number whose magnitude has a notation; the other numbers have names. -/
def written (form : Magnitude → Text) : Binary64 → Text
  | nan _ => "nan"
  | infinite negative => signText negative ++ Text.ofString "inf"
  | finite negative m => signText negative ++ form m

/-- The text with six significant digits. -/
def brief (x : Binary64) : Text := x.written fun m => m.general 6 (Numeral.significant 6)

end Binary64

end Registry
