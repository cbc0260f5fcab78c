import Registry.Proofs.Binary64.Decimal

/-!
# Rounding

A number of units is rounded to a multiple of a power of two (`Magnitude.roundedUnits`), half a multiple
away at most. No rounding goes below a power of two that the number reaches. A number may be rounded
up to one, but a thousand times a magnitude never is: below a power of two, no multiple of a
thousand with a significand of 53 bits is that near (`Magnitude.roundedUnits_thousandfold_lt_iff`).
-/

namespace Registry

/-! ## Rounding a ratio -/

/-- A quotient is rounded down or up, to the side that is half a divisor away at most. -/
theorem divRound_cases (a b : Nat) :
    divRound a b = a / b ∧ 2 * (a % b) ≤ b ∨ divRound a b = a / b + 1 ∧ b ≤ 2 * (a % b) := by
  unfold divRound
  split
  · exact .inl ⟨rfl, by omega⟩
  split
  · exact .inr ⟨rfl, by omega⟩
  · rcases Nat.mod_two_eq_zero_or_one (a / b) with heven | hodd
    · exact .inl ⟨by omega, by omega⟩
    · exact .inr ⟨by omega, by omega⟩

theorem div_le_divRound (a b : Nat) : a / b ≤ divRound a b := by
  have hcases := divRound_cases a b
  omega

/-- The rounded quotient is half a divisor away at most. -/
theorem divRound_near (a : Nat) {b : Nat} (hb : 0 < b) :
    2 * (divRound a b * b) ≤ 2 * a + b ∧ 2 * a ≤ 2 * (divRound a b * b) + b := by
  have ha := Nat.div_add_mod' a b
  have hr := Nat.mod_lt a hb
  rcases divRound_cases a b with ⟨h, hhalf⟩ | ⟨h, hhalf⟩
  · rw [h]
    omega
  · rw [h, Nat.add_mul, Nat.one_mul]
    omega

namespace Magnitude

/-! ## Rounding units -/

/-- The exponent of the power of two that units are rounded to multiples of. -/
def shiftOf (n : Nat) : Nat := n.log2 - 52

/-- Units, rounded to 53 significant bits. -/
def roundedUnits (n : Nat) : Nat := divRound n (2 ^ shiftOf n) * 2 ^ shiftOf n

variable {n e : Nat}

theorem roundedUnits_near (n : Nat) :
    2 * roundedUnits n ≤ 2 * n + 2 ^ shiftOf n ∧ 2 * n ≤ 2 * roundedUnits n + 2 ^ shiftOf n :=
  divRound_near n (by positivity)

/-- What can be lost in rounding is small against the number. -/
theorem pow_shiftOf_le (h : n ≠ 0) : 2 ^ shiftOf n = 1 ∨ 2 ^ 52 * 2 ^ shiftOf n ≤ n := by
  rcases Nat.lt_or_ge n.log2 52 with hlog | hlog
  · left
    rw [shiftOf, Nat.sub_eq_zero_of_le hlog.le, pow_zero]
  · right
    rw [shiftOf, ← pow_add, Nat.add_sub_cancel' hlog]
    exact Nat.log2_self_le h

/-- The last bit of a number below a power of two. -/
theorem pow_shiftOf_le_of_lt (h : n < 2 ^ (e + 53)) : 2 ^ shiftOf n ≤ 2 ^ e := by
  apply Nat.pow_le_pow_right (by decide)
  rcases Nat.eq_zero_or_pos n with rfl | hn
  · exact Nat.zero_le _
  · have hlog := (Nat.log2_lt hn.ne').mpr h
    unfold shiftOf
    omega

/-- What is left of a number has the first bit of the number. -/
theorem pow_le_div (hn : n ≠ 0) : 2 ^ (n.log2 - shiftOf n) ≤ n / 2 ^ shiftOf n := by
  have hshift : n.log2 - shiftOf n + shiftOf n = n.log2 := by
    unfold shiftOf
    omega
  rw [Nat.le_div_iff_mul_le (by positivity), ← pow_add, hshift]
  exact Nat.log2_self_le hn

/-- Rounding goes below no power of two that the number reaches. -/
theorem pow_le_roundedUnits (h : 2 ^ e ≤ n) : 2 ^ e ≤ roundedUnits n := by
  have hn : n ≠ 0 := by
    rintro rfl
    exact absurd h (by simp)
  have hshift : n.log2 = n.log2 - shiftOf n + shiftOf n := by
    unfold shiftOf
    omega
  calc 2 ^ e ≤ 2 ^ n.log2 := Nat.pow_le_pow_right (by decide) ((Nat.le_log2 hn).mpr h)
    _ = 2 ^ (n.log2 - shiftOf n) * 2 ^ shiftOf n := by rw [← pow_add, ← hshift]
    _ ≤ roundedUnits n :=
      Nat.mul_le_mul_right _ ((pow_le_div hn).trans (div_le_divRound _ _))

/-- The relative error of rounding. -/
theorem roundedUnits_error (n : Nat) :
    2 ^ 53 * (roundedUnits n - n) ≤ n ∧ 2 ^ 53 * (n - roundedUnits n) ≤ n := by
  rcases Nat.eq_zero_or_pos n with rfl | hn
  · decide
  have hnear := roundedUnits_near n
  rcases pow_shiftOf_le hn.ne' with hone | hsmall
  · rw [hone] at hnear
    omega
  · omega

/-! ## The nearest magnitude -/

theorem divRound_le_pow (n : Nat) : divRound n (2 ^ shiftOf n) ≤ 2 ^ 53 := by
  have hdiv : n / 2 ^ shiftOf n < 2 ^ 53 := by
    rw [Nat.div_lt_iff_lt_mul (by positivity), ← pow_add]
    refine lt_of_lt_of_le Nat.lt_log2_self (Nat.pow_le_pow_right (by decide) ?_)
    unfold shiftOf
    omega
  have hcases := divRound_cases n (2 ^ shiftOf n)
  omega

theorem pow_le_divRound (h : 0 < shiftOf n) : 2 ^ 52 ≤ divRound n (2 ^ shiftOf n) := by
  have hn : n ≠ 0 := by
    rintro rfl
    simp [shiftOf] at h
  have hbits : n.log2 - shiftOf n = 52 := by
    unfold shiftOf at *
    omega
  rw [← hbits]
  exact (pow_le_div hn).trans (div_le_divRound _ _)

/-- The significand fits, with a shift that the format has. -/
def Fits (n : Nat) : Prop := divRound n (2 ^ shiftOf n) < 2 ^ 53 ∧ shiftOf n ≤ 2045

theorem nearest?_one_of_fits (h : Fits n) :
    ∃ m, nearest? n 1 = some m ∧ m.units = roundedUnits n := by
  unfold nearest?
  simp only [Nat.div_one, one_mul]
  exact ⟨_, dif_pos h, rfl⟩

/-- A significand that is rounded up to 54 bits is a power of two. -/
theorem nearest?_one_of_carry (h : ¬Fits n) (hshift : shiftOf n < 2045) :
    ∃ m, nearest? n 1 = some m ∧ m.units = roundedUnits n := by
  have hcarry : divRound n (2 ^ shiftOf n) = 2 ^ 53 := by
    have hle := divRound_le_pow n
    unfold Fits at h
    omega
  have hunits : roundedUnits n = 2 ^ 52 * 2 ^ (shiftOf n + 1) := by
    rw [roundedUnits, hcarry]
    ring
  unfold nearest?
  simp only [Nat.div_one, one_mul]
  exact ⟨_, (dif_neg h).trans (dif_pos hshift), hunits.symm⟩

theorem nearest?_one_eq_none (h : ¬Fits n) (hshift : ¬shiftOf n < 2045) :
    nearest? n 1 = none := by
  unfold nearest?
  simp only [Nat.div_one, one_mul]
  exact (dif_neg h).trans (dif_neg hshift)

/-- The exponent of one as a variable, so that its power is not evaluated. -/
theorem exists_unitsPerOne_eq : ∃ k, k = 1074 ∧ unitsPerOne = 2 ^ k := by
  refine ⟨1074, rfl, ?_⟩
  decide +kernel

theorem unitsPerOne_pos : 0 < unitsPerOne := by
  obtain ⟨k, -, hone⟩ := exists_unitsPerOne_eq
  rw [hone]
  positivity

/-- The same of the largest exponent of the format. -/
theorem exists_unitsBound_eq : ∃ k, k = 2045 ∧ unitsBound = 2 ^ 53 * 2 ^ k := by
  refine ⟨2045, rfl, ?_⟩
  decide +kernel

theorem roundedUnits_lt_unitsBound (h : Fits n ∨ shiftOf n < 2045) :
    roundedUnits n < unitsBound := by
  have hle := divRound_le_pow n
  obtain ⟨k, hk, hbound⟩ := exists_unitsBound_eq
  unfold Fits at h
  rw [← hk] at h
  rw [hbound, roundedUnits]
  rcases h with ⟨hm, hshift⟩ | hshift
  · exact Nat.mul_lt_mul_of_lt_of_le hm (Nat.pow_le_pow_right (by decide) hshift) (by positivity)
  · exact Nat.mul_lt_mul_of_le_of_lt hle (Nat.pow_lt_pow_right (by decide) hshift) (by positivity)

theorem unitsBound_le_roundedUnits (h : ¬Fits n) (hshift : ¬shiftOf n < 2045) :
    unitsBound ≤ roundedUnits n := by
  have hge := pow_le_divRound (n := n) (by omega)
  obtain ⟨k, hk, hbound⟩ := exists_unitsBound_eq
  unfold Fits at h
  rw [← hk] at h hshift
  rw [hbound, roundedUnits]
  rcases Nat.lt_or_ge k (shiftOf n) with hlarge | hsmall
  · calc 2 ^ 53 * 2 ^ k = 2 ^ 52 * 2 ^ (k + 1) := by ring
      _ ≤ _ := Nat.mul_le_mul hge (Nat.pow_le_pow_right (by decide) hlarge)
  · exact Nat.mul_le_mul (by omega) (Nat.pow_le_pow_right (by decide) (by omega))

/-- The nearest magnitude has the rounded units, and there is none exactly if these are not below
the bound of the format. -/
theorem nearest?_one (n : Nat) :
    roundedUnits n < unitsBound ∧ (∃ m, nearest? n 1 = some m ∧ m.units = roundedUnits n)
      ∨ unitsBound ≤ roundedUnits n ∧ nearest? n 1 = none := by
  by_cases h : Fits n
  · exact .inl ⟨roundedUnits_lt_unitsBound (.inl h), nearest?_one_of_fits h⟩
  by_cases hshift : shiftOf n < 2045
  · exact .inl ⟨roundedUnits_lt_unitsBound (.inr hshift), nearest?_one_of_carry h hshift⟩
  · exact .inr ⟨unitsBound_le_roundedUnits h hshift, nearest?_one_eq_none h hshift⟩

theorem two_pow_mul_unitsPerOne_lt : 2 ^ 65 * unitsPerOne < unitsBound := by
  obtain ⟨k, hk, hone⟩ := exists_unitsPerOne_eq
  obtain ⟨l, hl, hbound⟩ := exists_unitsBound_eq
  rw [hone, hbound, ← pow_add, ← pow_add]
  exact Nat.pow_lt_pow_right (by decide) (by omega)

/-- An integer below a power of two is not too large for the format. -/
theorem exists_nearest?_of_lt {k : Nat} (h : k < 2 ^ 64) :
    ∃ m, nearest? (k * unitsPerOne) 1 = some m := by
  rcases nearest?_one (k * unitsPerOne) with ⟨-, m, hm, -⟩ | ⟨hlarge, -⟩
  · exact ⟨m, hm⟩
  · -- rounding does not double a number
    have herror := (roundedUnits_error (k * unitsPerOne)).1
    have hbound := two_pow_mul_unitsPerOne_lt
    have hmul := Nat.mul_le_mul_right unitsPerOne h.le
    omega

/-! ## A thousand times a magnitude -/

/-- Below a power of two, a thousand times a magnitude is so far from it that it is not rounded
up. -/
theorem roundedUnits_thousandfold_lt (m : Magnitude) (h : m.units * 1000 < 2 ^ (e + 62)) :
    roundedUnits (m.units * 1000) < 2 ^ (e + 62) := by
  by_contra hge
  have hnear := (roundedUnits_near (m.units * 1000)).1
  have hshift : 2 ^ shiftOf (m.units * 1000) ≤ 2 ^ (e + 9) := pow_shiftOf_le_of_lt h
  obtain ⟨q, hq, hlt, -⟩ := m.exists_eq_mul_pow
  generalize m.units.log2 - 52 = k at hq
  have hunits : m.units < 2 ^ 53 * 2 ^ k := by
    rw [hq]
    exact Nat.mul_lt_mul_of_pos_right hlt (by positivity)
  rw [pow_add] at h hge hshift
  have hpos : 0 < 2 ^ e := by positivity
  -- A magnitude so near to a thousandth of the power has no bits below `2 ^ e`.
  have hk : e ≤ k := by
    by_contra hek
    have hdouble : 2 ^ k * 2 ≤ 2 ^ e := by
      rw [← pow_succ]
      exact Nat.pow_le_pow_right (by decide) (by omega)
    omega
  obtain ⟨j, rfl⟩ := Nat.exists_eq_add_of_le hk
  have hmultiple : m.units * 1000 = 2 ^ e * (q * 2 ^ j * 1000) := by
    rw [hq, pow_add]
    ring
  have hlow : q * 2 ^ j * 1000 < 2 ^ 62 := by
    rw [hmultiple] at h
    exact Nat.lt_of_mul_lt_mul_left h
  have hgap : 2 ^ e * (q * 2 ^ j * 1000 + 904) ≤ 2 ^ e * 2 ^ 62 := by
    apply Nat.mul_le_mul_left
    omega
  rw [Nat.mul_add, ← hmultiple] at hgap
  omega

theorem roundedUnits_thousandfold_lt_iff (m : Magnitude) (he : 62 ≤ e) :
    roundedUnits (m.units * 1000) < 2 ^ e ↔ m.units * 1000 < 2 ^ e := by
  constructor
  · intro h
    by_contra hle
    exact absurd (pow_le_roundedUnits (Nat.le_of_not_lt hle)) (Nat.not_le.mpr h)
  · intro h
    obtain ⟨e, rfl⟩ := Nat.exists_eq_add_of_le' he
    exact roundedUnits_thousandfold_lt m h

end Magnitude

end Registry
