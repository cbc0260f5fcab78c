import Mathlib.Tactic.Linarith
import Mathlib.Tactic.Ring
import Registry.Text

/-!
# Digits of numbers

The decimal digits of a number are digits, have its value, and begin with a zero only if the number
is zero. A run of code points of a class, such as the digits, is cut off where something else
follows (`takeWhile_append_stop`).
-/

namespace Registry

/-! ## Characters as code points -/

namespace CodePoint

theorem ofChar_val (x : Char) : (ofChar x).val = x.toNat := rfl

theorem is_iff {c : CodePoint} {x : Char} : c.is x = true ↔ c.val = x.toNat := by
  unfold is
  rw [beq_iff_eq]
  exact ⟨fun h => h ▸ rfl, fun h => val_injective h⟩

theorem eq_ofChar_of_is {c : CodePoint} {x : Char} (h : c.is x = true) : c = ofChar x :=
  val_injective (is_iff.mp h)

theorem is_eq_false_iff {c : CodePoint} {x : Char} : c.is x = false ↔ c.val ≠ x.toNat := by
  rw [← Bool.not_eq_true, is_iff]

theorem isDigit_iff {c : CodePoint} : c.isDigit = true ↔ 0x30 ≤ c.val ∧ c.val ≤ 0x39 := by
  simp [isDigit]

theorem isSurrogate_iff {c : CodePoint} : c.isSurrogate = true ↔ 0xD800 ≤ c.val ∧ c.val ≤ 0xDFFF := by
  simp [isSurrogate]

theorem val_ofNat {n : Nat} (h : n < 0x110000) : (ofNat n).val = n := by
  unfold ofNat
  rw [dif_pos h]

theorem ofNat_val (c : CodePoint) : ofNat c.val = c := val_injective (val_ofNat c.isLt)

end CodePoint

namespace Text

/-! ## Runs of a class -/

theorem takeWhile_append_stop {p : CodePoint → Bool} {s r : Text} (hs : ∀ c ∈ s, p c = true)
    (hr : ∀ c ∈ r.head?, p c = false) : (s ++ r).takeWhile p = s := by
  rw [List.takeWhile_append_of_pos hs]
  cases r with
  | nil => simp
  | cons c r => simp [List.takeWhile, hr c (by simp)]

theorem dropWhile_append_stop {p : CodePoint → Bool} {s r : Text} (hs : ∀ c ∈ s, p c = true)
    (hr : ∀ c ∈ r.head?, p c = false) : (s ++ r).dropWhile p = r := by
  rw [List.dropWhile_append_of_pos hs]
  cases r with
  | nil => rfl
  | cons c r => simp [List.dropWhile, hr c (by simp)]

/-! ## Runs of digits -/

/-- Every code point is a digit. -/
def AllDigits (t : Text) : Prop := ∀ c ∈ t, c.isDigit = true

/-- The text goes on with something that is no digit, or ends. -/
def NoDigitNext (t : Text) : Prop := ∀ c ∈ t.head?, c.isDigit = false

theorem AllDigits.append {s t : Text} (hs : AllDigits s) (ht : AllDigits t) :
    AllDigits (s ++ t) := by
  intro c hc
  rcases List.mem_append.mp hc with h | h
  · exact hs c h
  · exact ht c h

theorem AllDigits.of_append_left {s t : Text} (h : AllDigits (s ++ t)) : AllDigits s :=
  fun c hc => h c (List.mem_append_left t hc)

theorem AllDigits.of_append_right {s t : Text} (h : AllDigits (s ++ t)) : AllDigits t :=
  fun c hc => h c (List.mem_append_right s hc)

theorem AllDigits.of_cons {c : CodePoint} {t : Text} (h : AllDigits (c :: t)) : AllDigits t :=
  fun d hd => h d (List.mem_cons_of_mem c hd)

theorem allDigits_zeros (n : Nat) : AllDigits (List.replicate n (CodePoint.ofChar '0')) := by
  intro c hc
  rw [List.eq_of_mem_replicate hc]
  decide

/-! ## The value of digits -/

theorem foldl_digits (t : Text) (n : Nat) :
    t.foldl (fun n c => 10 * n + c.digitValue) n = n * 10 ^ t.length + digitsValue t := by
  induction t generalizing n with
  | nil => simp [digitsValue]
  | cons c t ih =>
    rw [digitsValue, List.foldl_cons, List.foldl_cons, ih, ih (10 * 0 + c.digitValue)]
    rw [List.length_cons, pow_succ]
    ring

theorem digitsValue_append (s t : Text) :
    digitsValue (s ++ t) = digitsValue s * 10 ^ t.length + digitsValue t := by
  rw [digitsValue, List.foldl_append, foldl_digits]
  rfl

theorem digitsValue_cons (c : CodePoint) (t : Text) :
    digitsValue (c :: t) = c.digitValue * 10 ^ t.length + digitsValue t := by
  rw [digitsValue, List.foldl_cons, foldl_digits, Nat.mul_zero, Nat.zero_add]

theorem digitsValue_zeros (n : Nat) :
    digitsValue (List.replicate n (CodePoint.ofChar '0')) = 0 := by
  induction n with
  | zero => rfl
  | succ n ih =>
    rw [List.replicate_succ, digitsValue_cons, ih, show (CodePoint.ofChar '0').digitValue = 0 from rfl]
    simp

theorem digitsValue_lt {t : Text} (h : AllDigits t) : digitsValue t < 10 ^ t.length := by
  induction t with
  | nil => decide
  | cons c t ih =>
    have hc := CodePoint.isDigit_iff.mp (h c (by simp))
    have hv : c.digitValue ≤ 9 := by unfold CodePoint.digitValue; omega
    have ht := ih h.of_cons
    rw [digitsValue_cons, List.length_cons, pow_succ]
    nlinarith [Nat.mul_le_mul_right (10 ^ t.length) hv]

/-! ## The digits of a number -/

theorem ofNat_allDigits (n : Nat) : AllDigits (ofNat n) := by
  intro c hc
  obtain ⟨x, hx, rfl⟩ := List.mem_map.mp hc
  have h := Nat.isDigit_of_mem_toDigits (by decide) (by decide) hx
  rw [CodePoint.isDigit_iff, CodePoint.ofChar_val]
  simpa [Char.isDigit, UInt32.le_iff_toNat_le] using h

theorem digitsValue_ofNat (n : Nat) : digitsValue (ofNat n) = n := by
  have h := @Nat.ofDigitChars_ten_toDigits n
  rw [Nat.ofDigitChars_eq_foldl] at h
  rw [digitsValue, ofNat, List.foldl_map]
  exact h

theorem ofNat_ne_nil (n : Nat) : ofNat n ≠ [] := by
  simp [ofNat]

theorem length_ofNat_le_iff {n k : Nat} (h : 0 < k) : (ofNat n).length ≤ k ↔ n < 10 ^ k := by
  rw [ofNat, List.length_map]
  exact Nat.length_toDigits_le_iff (by decide) h

theorem length_ofNat (n : Nat) : (ofNat n).length = (Nat.toDigits 10 n).length := by
  rw [ofNat, List.length_map]

theorem pow_length_le {n : Nat} (h : 0 < n) : 10 ^ ((ofNat n).length - 1) ≤ n := by
  rcases Nat.eq_zero_or_pos ((ofNat n).length - 1) with h0 | h0
  · rw [h0]
    exact h
  · by_contra hlt
    have := (length_ofNat_le_iff h0).mpr (Nat.lt_of_not_le hlt)
    omega

theorem lt_pow_length (n : Nat) : n < 10 ^ (ofNat n).length :=
  (length_ofNat_le_iff (List.length_pos_iff.mpr (ofNat_ne_nil n))).mp le_rfl

theorem lt_length_ofNat {n k : Nat} (h : Nat.pow 10 k ≤ n) : k < (ofNat n).length := by
  by_contra hk
  have h₁ := Nat.pow_le_pow_right (show 0 < 10 by decide) (Nat.le_of_not_lt hk)
  exact absurd (lt_of_lt_of_le (lt_pow_length n) (h₁.trans h)) (lt_irrefl n)

theorem length_ofNat_eq {n k : Nat} (h₁ : 10 ^ k ≤ n) (h₂ : n < 10 ^ (k + 1)) :
    (ofNat n).length = k + 1 := by
  have hle := (length_ofNat_le_iff (Nat.succ_pos k)).mpr h₂
  have hge := lt_length_ofNat h₁
  omega

theorem length_ofNat_mul_pow {n : Nat} (h : 0 < n) (k : Nat) :
    (ofNat (n * 10 ^ k)).length = (ofNat n).length + k := by
  have hpos := List.length_pos_iff.mpr (ofNat_ne_nil n)
  have h₁ := Nat.mul_le_mul_right (10 ^ k) (pow_length_le h)
  have h₂ := Nat.mul_lt_mul_of_pos_right (lt_pow_length n) (show 0 < 10 ^ k by positivity)
  rw [← pow_add] at h₁ h₂
  have e := length_ofNat_eq h₁ (by
    rwa [show (ofNat n).length - 1 + k + 1 = (ofNat n).length + k by omega])
  omega

/-- A positive number begins with a digit that is not zero. -/
theorem ofNat_eq_cons {n : Nat} (h : 0 < n) :
    ∃ c t, ofNat n = c :: t ∧ c.isDigit = true ∧ c.is '0' = false := by
  obtain ⟨c, t, e⟩ := List.exists_cons_of_ne_nil (ofNat_ne_nil n)
  have hd : AllDigits (c :: t) := e ▸ ofNat_allDigits n
  refine ⟨c, t, e, hd c (by simp), ?_⟩
  rw [CodePoint.is_eq_false_iff]
  intro h0
  have hv : n = digitsValue t := by
    have := digitsValue_ofNat n
    rw [e, digitsValue_cons] at this
    have hz : c.digitValue = 0 := by unfold CodePoint.digitValue; rw [h0]; rfl
    rw [hz] at this
    omega
  have hlt := digitsValue_lt hd.of_cons
  rw [← hv] at hlt
  have hlen : (ofNat n).length = t.length + 1 := by rw [e, List.length_cons]
  rcases Nat.eq_zero_or_pos t.length with h1 | h1
  · rw [h1] at hlt
    omega
  · have := (length_ofNat_le_iff h1).mpr hlt
    omega

theorem ofNat_zero : ofNat 0 = [CodePoint.ofChar '0'] := by decide

/-! ## Padded numbers -/

theorem zeroPad_allDigits {w : Nat} {t : Text} (h : AllDigits t) : AllDigits (zeroPad w t) :=
  (allDigits_zeros _).append h

theorem padded_allDigits (w n : Nat) : AllDigits (padded w n) :=
  zeroPad_allDigits (ofNat_allDigits n)

theorem digitsValue_padded (w n : Nat) : digitsValue (padded w n) = n := by
  rw [padded, zeroPad, digitsValue_append, digitsValue_zeros, digitsValue_ofNat]
  omega

theorem length_padded {w n : Nat} (hw : 0 < w) (h : n < 10 ^ w) : (padded w n).length = w := by
  have := (length_ofNat_le_iff hw).mpr h
  rw [padded, zeroPad, List.length_append, List.length_replicate]
  omega

/-! ## Trimming -/

theorem trim_eq_self {p : CodePoint → Bool} {t : Text} (hh : ∀ c ∈ t.head?, p c = false)
    (hl : ∀ c ∈ t.getLast?, p c = false) : t.trim p = t := by
  have hdrop {t : Text} (h : ∀ c ∈ t.head?, p c = false) : t.dropWhile p = t := by
    cases t with
    | nil => rfl
    | cons c t => rw [List.dropWhile_cons_of_neg (by simp [h c rfl])]
  have hr : ∀ c ∈ t.reverse.head?, p c = false := by
    rw [List.head?_reverse]
    exact hl
  rw [trim, hdrop hh, hdrop hr, List.reverse_reverse]

end Text

end Registry
