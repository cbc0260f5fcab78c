/-!
# Binary64 numbers

The floating-point numbers of the IEEE 754 format binary64. Every not-a-number is an object of its
own, which its number tells apart from the others. The magnitude of a finite number is a natural
number of *units* of 2⁻¹⁰⁷⁴, the smallest positive number of the format; `Magnitude` keeps the proof
that it fits in 53 bits. All arithmetic is exact arithmetic on units followed by one rounding,
`Magnitude.nearest?`.
-/

namespace Registry

/-- The quotient of two natural numbers, rounded to the nearest integer and a half to even. -/
def divRound (a b : Nat) : Nat :=
  if 2 * (a % b) < b then a / b
  else if b < 2 * (a % b) then a / b + 1
  else a / b + a / b % 2

/-- The absolute value of a finite number, in units of 2⁻¹⁰⁷⁴. -/
structure Magnitude where
  units : Nat
  representable : ∃ m e, m < Nat.pow 2 53 ∧ e ≤ 2045 ∧ units = m * Nat.pow 2 e
deriving DecidableEq

namespace Magnitude

instance : Zero Magnitude := ⟨⟨0, 0, 0, by decide, by decide, by decide⟩⟩

/-- How many units make one. -/
def unitsPerOne : Nat := Nat.pow 2 1074

/-- The magnitude nearest to a ratio of units, a half going to the even significand, and nothing if
that is beyond the largest. -/
def nearest? (num den : Nat) : Option Magnitude :=
  let shift := (num / den).log2 - 52
  let m := divRound num (den * Nat.pow 2 shift)
  if h : m < Nat.pow 2 53 ∧ shift ≤ 2045 then some ⟨m * Nat.pow 2 shift, m, shift, h.1, h.2, rfl⟩
  else if h : shift < 2045 then
    some ⟨Nat.pow 2 52 * Nat.pow 2 (shift + 1), Nat.pow 2 52, shift + 1, by decide, h, rfl⟩
  else none

/-- The magnitude nearest to `digits · 10 ^ exponent`. An exponent that leaves no doubt is not
raised to. -/
def ofDecimal? (digits : Nat) (exponent : Int) : Option Magnitude :=
  let top := ((Nat.toDigits 10 digits).length : Int) + exponent
  if digits = 0 ∨ top < -330 then some 0
  else if 310 < top then none
  else if 0 ≤ exponent then nearest? (digits * Nat.pow 10 exponent.toNat * unitsPerOne) 1
  else nearest? (digits * unitsPerOne) (Nat.pow 10 (-exponent).toNat)

end Magnitude

/-- A floating-point number. A nan is equal to no number, itself included; that it is one object and
not another one is what its number says. -/
inductive Binary64
  | nan (object : Nat)
  | infinite (negative : Bool)
  | finite (negative : Bool) (magnitude : Magnitude)
deriving DecidableEq

namespace Binary64

/-- A sign and a magnitude, or an infinity if the magnitude is beyond the largest. -/
def ofMagnitude? (negative : Bool) : Option Magnitude → Binary64
  | some m => finite negative m
  | none => infinite negative

/-- The number nearest to a signed decimal. -/
def ofDecimal (negative : Bool) (digits : Nat) (exponent : Int) : Binary64 :=
  ofMagnitude? negative (Magnitude.ofDecimal? digits exponent)

/-- The number nearest to an integer, an infinity for a very large one. -/
def ofInt (n : Int) : Binary64 :=
  ofMagnitude? (n < 0) (Magnitude.nearest? (n.natAbs * Magnitude.unitsPerOne) 1)

instance : OfNat Binary64 n := ⟨ofInt n⟩

/-- Neither infinite nor nan. -/
def isFinite : Binary64 → Bool
  | finite _ _ => true
  | _ => false

def isPositive : Binary64 → Bool
  | finite false m => m.units != 0
  | infinite false => true
  | _ => false

def isNegative : Binary64 → Bool
  | finite true m => m.units != 0
  | infinite true => true
  | _ => false

/-- Not zero; nan is not zero. -/
def isNonzero : Binary64 → Bool
  | finite _ m => m.units != 0
  | _ => true

/-- A finite number without fraction. -/
def isIntegral : Binary64 → Bool
  | finite _ m => m.units % Magnitude.unitsPerOne == 0
  | _ => false

/-- The integer next to a finite number towards zero. -/
def truncate? : Binary64 → Option Int
  | finite negative m =>
    let n : Int := (m.units / Magnitude.unitsPerOne : Nat)
    some (if negative then -n else n)
  | _ => none

/-- The product with a positive integer, rounded. -/
def scale (k : Nat) : Binary64 → Binary64
  | finite negative m => ofMagnitude? negative (Magnitude.nearest? (m.units * k) 1)
  | x => x

/-- The number as an object: a nan gets the number of the object. -/
def asObject (object : Nat) : Binary64 → Binary64
  | nan _ => nan object
  | x => x

/-- The same number with the other sign. -/
def negate : Binary64 → Binary64
  | nan object => nan object
  | infinite negative => infinite !negative
  | finite negative m => finite (!negative) m

/-- The sum, rounded. Infinities of both signs have none, and a sum of zero is negative only if both
numbers are. -/
def add : Binary64 → Binary64 → Binary64
  | nan object, _ => nan object
  | _, nan object => nan object
  | infinite a, infinite b => if a = b then infinite a else nan 0
  | infinite a, finite _ _ => infinite a
  | finite _ _, infinite b => infinite b
  | finite a m, finite b n =>
    let signed (negative : Bool) (m : Magnitude) : Int :=
      if negative then -(m.units : Int) else m.units
    let sum := signed a m + signed b n
    ofMagnitude? (if sum = 0 then a && b else sum < 0) (Magnitude.nearest? sum.natAbs 1)

/-- The largest integer that is not above a finite number. -/
def floor? : Binary64 → Option Int
  | finite negative m =>
    let n : Int := m.units
    some ((if negative then -n else n) / (Magnitude.unitsPerOne : Int))
  | _ => none

/-- What a finite number is above its floor, rounded. -/
def fractional : Binary64 → Binary64
  | finite negative m =>
    let n : Int := m.units
    ofMagnitude? false
      (Magnitude.nearest? ((if negative then -n else n) % (Magnitude.unitsPerOne : Int)).toNat 1)
  | x => x

/-- The integer nearest to a finite number that is not negative, a half going up. -/
def roundHalfUp : Binary64 → Nat
  | finite _ m => (2 * m.units + Magnitude.unitsPerOne) / (2 * Magnitude.unitsPerOne)
  | _ => 0

/-- The absolute value is greater than a natural number. -/
def exceeds (k : Nat) : Binary64 → Bool
  | finite _ m => k * Magnitude.unitsPerOne < m.units
  | infinite _ => true
  | nan _ => false

/-- The integer equal to a number, if there is one. -/
def toInt? (x : Binary64) : Option Int := if x.isIntegral then x.truncate? else none

end Binary64

end Registry
