import Registry.Binary64.Shortest
import Registry.Proofs.Text.Digits

/-!
# Decimals read back

The shortest decimal of a magnitude reads back as the magnitude (`ofDecimal?_shortest`). Reading
depends on the number that a decimal is and not on its digits: zeros at the end of the digits make
up for the exponent (`ofDecimal?_mul_pow`). The decimal with all digits, which is the last resort of
the search, is exact.
-/

namespace Registry

/-! ## Rounding a ratio -/

theorem divRound_mul_right (a b : Nat) {c : Nat} (hc : 0 < c) :
    divRound (a * c) (b * c) = divRound a b := by
  have h₁ : 2 * (a % b * c) < b * c ↔ 2 * (a % b) < b := by
    rw [← mul_assoc]
    exact Nat.mul_lt_mul_right hc
  have h₂ : b * c < 2 * (a % b * c) ↔ b < 2 * (a % b) := by
    rw [← mul_assoc]
    exact Nat.mul_lt_mul_right hc
  unfold divRound
  rw [Nat.mul_mod_mul_right, Nat.mul_div_mul_right a b hc]
  simp only [h₁, h₂]

theorem divRound_mul_self (a : Nat) {b : Nat} (hb : 0 < b) : divRound (a * b) b = a := by
  unfold divRound
  rw [Nat.mul_mod_left, Nat.mul_div_cancel a hb, if_pos (by omega)]

namespace Magnitude

theorem ext {m n : Magnitude} (h : m.units = n.units) : m = n := by
  cases m
  cases n
  cases h
  rfl

theorem nearest?_mul_right (a b : Nat) {c : Nat} (hc : 0 < c) :
    nearest? (a * c) (b * c) = nearest? a b := by
  simp only [nearest?, Nat.mul_div_mul_right a b hc, Nat.mul_right_comm b c,
    divRound_mul_right _ _ hc]

/-- What `nearest?` drops from a magnitude is nothing: the power of two divides it. -/
theorem exists_eq_mul_pow (m : Magnitude) :
    ∃ q, m.units = q * 2 ^ (m.units.log2 - 52) ∧ q < 2 ^ 53 ∧ m.units.log2 - 52 ≤ 2045 := by
  obtain ⟨s, e, hs, he, hu⟩ := m.representable
  simp only [Nat.pow_eq] at hs hu
  rcases Nat.eq_zero_or_pos m.units with h0 | h0
  · rw [h0]
    exact ⟨0, by decide⟩
  have hlog : m.units.log2 < 53 + e := by
    rw [Nat.log2_lt (by omega), pow_add, hu]
    exact Nat.mul_lt_mul_of_pos_right hs (by positivity)
  obtain ⟨k, hk⟩ : ∃ k, k = m.units.log2 - 52 := ⟨_, rfl⟩
  have hlt : m.units < 2 ^ 53 * 2 ^ k := by
    rw [← pow_add]
    exact lt_of_lt_of_le Nat.lt_log2_self (Nat.pow_le_pow_right (by decide) (by omega))
  have hq : m.units = s * 2 ^ (e - k) * 2 ^ k := by
    rw [mul_assoc, ← pow_add, show e - k + k = e by omega]
    exact hu
  rw [← hk]
  refine ⟨_, hq, ?_, by omega⟩
  rw [hq] at hlt
  exact Nat.lt_of_mul_lt_mul_right hlt

/-- A ratio that is a magnitude is nearest to itself. -/
theorem nearest?_units (m : Magnitude) : nearest? m.units 1 = some m := by
  obtain ⟨q, hq, hlt, hle⟩ := m.exists_eq_mul_pow
  have hround : divRound m.units (1 * Nat.pow 2 (m.units.log2 - 52)) = q := by
    rw [one_mul]
    exact (congrArg (divRound · _) hq).trans (divRound_mul_self q (by positivity))
  unfold nearest?
  simp only [Nat.div_one, hround]
  rw [dif_pos ⟨hlt, hle⟩]
  exact congrArg some (ext hq.symm)

theorem nearest?_units_mul (m : Magnitude) {c : Nat} (hc : 0 < c) :
    nearest? (m.units * c) c = some m := by
  have h := nearest?_mul_right m.units 1 hc
  rw [one_mul] at h
  exact h.trans m.nearest?_units

/-! ## Reading a decimal -/

theorem ofDecimal?_mul_pow (n k : Nat) (e : Int) :
    ofDecimal? (n * 10 ^ k) e = ofDecimal? n (e + k) := by
  rcases Nat.eq_zero_or_pos n with rfl | hn
  · simp [ofDecimal?]
  have hnk : 0 < n * 10 ^ k := by positivity
  have hlen := Text.length_ofNat_mul_pow hn k
  rw [Text.length_ofNat, Text.length_ofNat] at hlen
  have htop : ((Nat.toDigits 10 (n * 10 ^ k)).length : Int) + e
      = (Nat.toDigits 10 n).length + (e + k) := by
    rw [hlen]
    push_cast
    ring
  unfold ofDecimal?
  simp only [htop, Nat.pos_iff_ne_zero.mp hn, Nat.pos_iff_ne_zero.mp hnk, false_or, Nat.pow_eq]
  split
  · rfl
  split
  · rfl
  split
  · next he =>
    rw [if_pos (by omega), show (e + k).toNat = k + e.toNat by omega, pow_add, mul_assoc n]
  · next he =>
    split
    · next hek =>
      have hk : 10 ^ k = 10 ^ (e + k).toNat * 10 ^ (-e).toNat := by
        rw [← pow_add, show (e + k).toNat + (-e).toNat = k by omega]
      have h := nearest?_mul_right (n * 10 ^ (e + k).toNat * unitsPerOne) 1
        (c := 10 ^ (-e).toNat) (by positivity)
      rw [one_mul] at h
      rw [hk, ← h, ← mul_assoc, Nat.mul_right_comm]
    · next hek =>
      have hk : (-e).toNat = (-(e + k)).toNat + k := by omega
      rw [hk, pow_add, Nat.mul_right_comm]
      exact nearest?_mul_right _ _ (by positivity)

/-! ## The shortest decimal -/

theorem readsBack_of_neighbour? {m : Magnitude} {count : Nat} {d : Decimal}
    (h : m.neighbour? count = some d) : m.ReadsBack d := by
  unfold neighbour? at h
  simp only at h
  split at h
  · next hlow =>
    split at h
    · next hhigh =>
      cases h
      exact hhigh.1
    · cases h
      exact hlow
  · split at h
    · next hhigh =>
      cases h
      exact hhigh
    · cases h

/-- The digits of a single unit, all of them behind the point. -/
def unitDigits : Nat := Nat.pow 5 1074

/-- No magnitude has more units. -/
def unitsBound : Nat := Nat.pow 2 53 * Nat.pow 2 2045

theorem exact_digits (m : Magnitude) : m.exact.digits = m.units * unitDigits := rfl

theorem pow_le_unitDigits : Nat.pow 10 750 ≤ unitDigits := by decide +kernel

theorem unitsBound_mul_unitDigits_lt : unitsBound * unitDigits < Nat.pow 10 1384 := by
  decide +kernel

theorem unitDigits_mul_unitsPerOne : unitDigits * unitsPerOne = Nat.pow 10 1074 := by
  decide +kernel

theorem units_le (m : Magnitude) : m.units ≤ unitsBound := by
  obtain ⟨s, e, hs, he, hu⟩ := m.representable
  exact hu.le.trans (Nat.mul_le_mul hs.le (Nat.pow_le_pow_right (by decide) he))

theorem lt_length_exact {m : Magnitude} (h : 0 < m.units) :
    750 < (Text.ofNat m.exact.digits).length :=
  Text.lt_length_ofNat (pow_le_unitDigits.trans (Nat.le_mul_of_pos_left _ h))

theorem length_exact_le (m : Magnitude) : (Text.ofNat m.exact.digits).length ≤ 1384 := by
  rw [Text.length_ofNat_le_iff (by decide), exact_digits]
  exact lt_of_le_of_lt (Nat.mul_le_mul_right _ m.units_le) unitsBound_mul_unitDigits_lt

/-- A decimal with places behind the point, neither too small nor too large, is a ratio. -/
theorem ofDecimal?_of_neg {n : Nat} {e : Int} (hn : 0 < n) (he : e < 0)
    (hlow : -330 ≤ ((Text.ofNat n).length : Int) + e)
    (hhigh : ((Text.ofNat n).length : Int) + e ≤ 310) :
    ofDecimal? n e = nearest? (n * unitsPerOne) (Nat.pow 10 (-e).toNat) := by
  rw [Text.length_ofNat] at hlow hhigh
  unfold ofDecimal?
  simp only
  rw [if_neg (by omega), if_neg (by omega), if_neg (by omega)]

/-- All digits of a magnitude are enough. -/
theorem readsBack_exact (m : Magnitude) : m.ReadsBack m.exact := by
  show ofDecimal? m.exact.digits (-1074) = some m
  rcases Nat.eq_zero_or_pos m.units with h0 | h0
  · rw [exact_digits, h0, Nat.zero_mul]
    exact congrArg some (ext h0.symm)
  have h₁ := lt_length_exact h0
  have h₂ := m.length_exact_le
  have hpos : 0 < m.exact.digits :=
    Nat.mul_pos h0 (lt_of_lt_of_le (Nat.pow_pos (by decide)) pow_le_unitDigits)
  have he : (-(-1074 : Int)).toNat = 1074 := rfl
  rw [ofDecimal?_of_neg hpos (by decide) (by omega) (by omega), he, exact_digits, Nat.mul_assoc,
    unitDigits_mul_unitsPerOne]
  exact m.nearest?_units_mul (Nat.pow_pos (by decide))

/-- The shortest decimal of a magnitude reads back as the magnitude. -/
theorem ofDecimal?_shortest (m : Magnitude) :
    ofDecimal? m.shortest.digits m.shortest.exponent = some m := by
  show m.ReadsBack m.shortest
  unfold shortest
  cases h : (List.range' 1 17).findSome? m.neighbour? with
  | none => exact m.readsBack_exact
  | some d =>
    obtain ⟨count, _, hd⟩ := List.exists_of_findSome?_eq_some h
    exact readsBack_of_neighbour? hd

end Magnitude

end Registry
