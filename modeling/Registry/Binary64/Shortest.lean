import Registry.Binary64.Notation

/-!
# Shortest decimal text of binary64 numbers

`Binary64.text` writes the fewest digits that read back as the same number, and of those the nearest
ones; a tie goes to the even digit.
-/

namespace Registry

namespace Magnitude

/-- A decimal reads back as the magnitude. -/
def ReadsBack (m : Magnitude) (d : Decimal) : Prop := ofDecimal? d.digits d.exponent = some m

instance (m : Magnitude) (d : Decimal) : Decidable (m.ReadsBack d) :=
  inferInstanceAs (Decidable (_ = _))

/-- Of the two neighbours of a magnitude among the decimals of `count` digits, the one that reads
back; of two, the nearer one, or the even one if they are as near. -/
def neighbour? (m : Magnitude) (count : Nat) : Option Decimal :=
  let power : Int := count - 1 - leadingExponent m.units
  let (num, den) := scaledRatio m.units power
  let low : Decimal := ⟨num / den, -power⟩
  let high : Decimal := ⟨num / den + 1, -power⟩
  if m.ReadsBack low then
    if m.ReadsBack high ∧ divRound num den ≠ num / den then some high else some low
  else if m.ReadsBack high then some high
  else none

/-- The magnitude as a decimal, with all its digits. -/
def exact (m : Magnitude) : Decimal := ⟨m.units * Nat.pow 5 1074, -1074⟩

/-- The decimal with the fewest digits that reads back. Seventeen digits are always enough. -/
def shortest (m : Magnitude) : Decimal :=
  ((List.range' 1 17).findSome? m.neighbour?).getD m.exact

/-- The shortest decimal, laid out. -/
def shortestText (m : Magnitude) (n : Numeral) : Text :=
  if m.units = 0 then n.layout (Text.zeros 1) 1 else n.text m.shortest

end Magnitude

namespace Binary64

/-- The shortest text that reads back as the same number. -/
def text (x : Binary64) : Text := x.written fun m => m.shortestText Numeral.full

end Binary64

end Registry
