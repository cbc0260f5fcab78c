import Registry.Binary64

/-!
# Extended numbers

Intermediate results of calculations with numbers of the format binary64 have more digits: a number
without sign is kept as a mantissa, rounded to 64 bits, and a power of two without bound. Every
operation is exact arithmetic followed by one rounding, `Extended.nearest`; `toMagnitude?` rounds
once more.
-/

namespace Registry

/-- The number `mantissa · 2 ^ exponent`. -/
structure Extended where
  mantissa : Nat
  exponent : Int
deriving DecidableEq

namespace Extended

/-- How many bits a mantissa has. -/
def width : Nat := 64

/-- The number of the format nearest to a ratio times a power of two, a half going to the even
mantissa. -/
def nearest (num den : Nat) (exponent : Int) : Extended :=
  let scale : Int := width + 1 + den.log2 - num.log2
  let num := num * Nat.pow 2 scale.toNat
  let den := den * Nat.pow 2 (-scale).toNat
  let extra := (num / den).log2 + 1 - width
  ⟨divRound num (den * Nat.pow 2 extra), exponent - scale + extra⟩

/-- A natural number. -/
def ofNat (n : Nat) : Extended := nearest n 1 0

/-- A magnitude, which is a number of the format. -/
def ofMagnitude (m : Magnitude) : Extended := ⟨m.units, -1074⟩

/-- The number of the format binary64 that is nearest to a decimal. -/
def ofDecimal (digits : Nat) (exponent : Int) : Extended :=
  ofMagnitude ((Magnitude.ofDecimal? digits exponent).getD 0)

/-- Two numbers as multiples of one power of two. -/
def aligned (x y : Extended) : Nat × Nat × Int :=
  let e := min x.exponent y.exponent
  (x.mantissa * Nat.pow 2 (x.exponent - e).toNat, y.mantissa * Nat.pow 2 (y.exponent - e).toNat, e)

/-- A number is not greater than another. -/
def le (x y : Extended) : Bool :=
  let (m, n, _) := aligned x y
  decide (m ≤ n)

/-- The sum, rounded. -/
def add (x y : Extended) : Extended :=
  let (m, n, e) := aligned x y
  nearest (m + n) 1 e

/-- The product, rounded. -/
def mul (x y : Extended) : Extended :=
  nearest (x.mantissa * y.mantissa) 1 (x.exponent + y.exponent)

/-- The quotient, rounded. -/
def div (x y : Extended) : Extended :=
  nearest x.mantissa y.mantissa (x.exponent - y.exponent)

/-- The integral part. -/
def floor (x : Extended) : Nat :=
  x.mantissa * Nat.pow 2 x.exponent.toNat / Nat.pow 2 (-x.exponent).toNat

/-- What a number is above its integral part. -/
def fractional (x : Extended) : Extended :=
  ⟨x.mantissa % Nat.pow 2 (-x.exponent).toNat, min 0 x.exponent⟩

/-- The nearest number of the format binary64, and nothing if that is beyond the largest. -/
def toMagnitude? (x : Extended) : Option Magnitude :=
  Magnitude.nearest? (x.mantissa * Nat.pow 2 (x.exponent + 1074).toNat)
    (Nat.pow 2 (-(x.exponent + 1074)).toNat)

/-- A power of ten, multiplied from those powers whose exponents are powers of two. Every product is
rounded, so a great power is not the nearest number of the format. -/
def powerOfTen (exponent : Nat) : Extended :=
  ((List.range (exponent.log2 + 1)).foldl
    (fun (product, power) i =>
      (if exponent.testBit i then product.mul power else product, power.mul power))
    (ofNat 1, ofNat 10)).1

end Extended

end Registry
