import Registry.Json.Reader
import Registry.Json.Writer
import Registry.Proofs.Text.Ascii

/-!
# Strings read back

A string that is written is read back with its surrogate pairs joined (`readString_writeString`).
Every code point is written as units of its own; surrogates are always written by their numbers, so
the reader joins exactly the pairs that stand next to each other in the text.
-/

namespace Registry

/-! ## Hexadecimal digits -/

theorem CodePoint.hexValue?_ofHexDigit : ∀ d < 16, (ofHexDigit d).hexValue? = some d := by
  decide

namespace Json

theorem hexPoint?_digits {a b c d : Nat} (ha : a < 16) (hb : b < 16) (hc : c < 16) (hd : d < 16) :
    hexPoint? (CodePoint.ofHexDigit a) (CodePoint.ofHexDigit b) (CodePoint.ofHexDigit c)
        (CodePoint.ofHexDigit d)
      = some (CodePoint.ofNat (((a * 16 + b) * 16 + c) * 16 + d)) := by
  unfold hexPoint?
  rw [CodePoint.hexValue?_ofHexDigit a ha, CodePoint.hexValue?_ofHexDigit b hb,
    CodePoint.hexValue?_ofHexDigit c hc, CodePoint.hexValue?_ofHexDigit d hd]
  rfl

/-! ## What the reader does with one unit -/

theorem readUnits_quote (opening r : Text) :
    readUnits opening (CodePoint.ofChar '"' :: r) = .ok ([], r) := by
  rw [readUnits.eq_def]
  rfl

theorem readUnits_escape {opening r : Text} {e x : CodePoint} (hu : e.is 'u' = false)
    (hx : unescape? e = some x) :
    readUnits opening (CodePoint.ofChar '\\' :: e :: r)
      = consUnit ⟨false, x⟩ (readUnits opening r) := by
  rw [readUnits.eq_def]
  simp only [show (CodePoint.ofChar '\\').is '"' = false from rfl,
    show (CodePoint.ofChar '\\').is '\\' = true from rfl, hu, hx, if_true, if_false,
    Bool.false_eq_true]

theorem readUnits_plain {opening r : Text} {c : CodePoint} (hq : c.is '"' = false)
    (hb : c.is '\\' = false) (hc : 0x20 ≤ c.val) :
    readUnits opening (c :: r) = consUnit ⟨false, c⟩ (readUnits opening r) := by
  rw [readUnits.eq_def]
  simp only [hq, hb, if_false, Bool.false_eq_true]
  rw [if_neg (by omega)]

/-- An escape by number stands for the code point of the number, unless the text ends behind it. -/
theorem readUnits_number {opening r : Text} {h₁ h₂ h₃ h₄ p : CodePoint}
    (hp : hexPoint? h₁ h₂ h₃ h₄ = some p) (hr : r ≠ []) :
    readUnits opening
        (CodePoint.ofChar '\\' :: CodePoint.ofChar 'u' :: h₁ :: h₂ :: h₃ :: h₄ :: r)
      = consUnit ⟨true, p⟩ (readUnits opening r) := by
  have hr' : r.isEmpty = false := List.isEmpty_eq_false_iff.mpr hr
  rw [readUnits.eq_def]
  simp only [show (CodePoint.ofChar '\\').is '"' = false from rfl,
    show (CodePoint.ofChar '\\').is '\\' = true from rfl,
    show (CodePoint.ofChar 'u').is 'u' = true from rfl, hp, hr', if_true, if_false,
    Bool.false_eq_true]

theorem readUnits_hexEscape {opening r : Text} {n : Nat} (hn : n < 0x10000) (hr : r ≠ []) :
    readUnits opening (hexEscape n ++ r)
      = consUnit ⟨true, CodePoint.ofNat n⟩ (readUnits opening r) := by
  have hp := hexPoint?_digits (a := n / 16 / 16 / 16 % 16) (b := n / 16 / 16 % 16)
    (c := n / 16 % 16) (d := n % 16) (by omega) (by omega) (by omega) (by omega)
  rw [show ((n / 16 / 16 / 16 % 16 * 16 + n / 16 / 16 % 16) * 16 + n / 16 % 16) * 16 + n % 16 = n by
    omega] at hp
  exact readUnits_number hp hr

/-! ## The units that a text is written in -/

/-- The first half of the surrogate pair of a code point beyond the basic plane. -/
def highHalf (c : CodePoint) : CodePoint := CodePoint.ofNat (0xD800 + (c.val - 0x10000) / 0x400)

/-- The second half of the surrogate pair of a code point beyond the basic plane. -/
def lowHalf (c : CodePoint) : CodePoint := CodePoint.ofNat (0xDC00 + (c.val - 0x10000) % 0x400)

theorem highHalf_val {c : CodePoint} (h : 0x10000 ≤ c.val) :
    (highHalf c).val = 0xD800 + (c.val - 0x10000) / 0x400 :=
  CodePoint.val_ofNat (by have := c.isLt; omega)

theorem lowHalf_val (c : CodePoint) : (lowHalf c).val = 0xDC00 + (c.val - 0x10000) % 0x400 :=
  CodePoint.val_ofNat (by omega)

theorem highHalf_isHighSurrogate {c : CodePoint} (h : 0x10000 ≤ c.val) :
    (highHalf c).isHighSurrogate = true := by
  have := c.isLt
  simp only [CodePoint.isHighSurrogate, highHalf_val h, Bool.and_eq_true, decide_eq_true_eq]
  omega

theorem highHalf_isLowSurrogate {c : CodePoint} (h : 0x10000 ≤ c.val) :
    (highHalf c).isLowSurrogate = false := by
  have := c.isLt
  simp only [CodePoint.isLowSurrogate, highHalf_val h, Bool.and_eq_false_iff, decide_eq_false_iff_not]
  omega

theorem lowHalf_isLowSurrogate (c : CodePoint) : (lowHalf c).isLowSurrogate = true := by
  simp only [CodePoint.isLowSurrogate, lowHalf_val, Bool.and_eq_true, decide_eq_true_eq]
  omega

theorem ofSurrogates_halves {c : CodePoint} (h : 0x10000 ≤ c.val) :
    CodePoint.ofSurrogates (highHalf c) (lowHalf c) = c := by
  have hc := c.isLt
  unfold CodePoint.ofSurrogates
  rw [highHalf_val h, lowHalf_val]
  apply CodePoint.val_injective
  rw [CodePoint.val_ofNat] <;> omega

/-- The code point is written by its number. -/
def isNumbered (c : CodePoint) : Bool :=
  !(c.is '"' || c.is '\\' || c.is '\n' || c.is '\r' || c.is '\t' || c.val == 12 || c.val == 8
    || (0x20 ≤ c.val && c.val ≤ 0x7E))

theorem isNumbered_of_lt {c : CodePoint} (h : 0x7E < c.val) : isNumbered c = true := by
  have hne (x : Char) (hx : x.toNat ≤ 0x7E) : c.is x = false :=
    CodePoint.is_eq_false_iff.mpr (by omega)
  simp only [isNumbered, hne _ (show '"'.toNat ≤ 0x7E by decide),
    hne _ (show '\\'.toNat ≤ 0x7E by decide), hne _ (show '\n'.toNat ≤ 0x7E by decide),
    hne _ (show '\r'.toNat ≤ 0x7E by decide), hne _ (show '\t'.toNat ≤ 0x7E by decide),
    Bool.or_self, Bool.false_or, Bool.not_eq_true', Bool.or_eq_false_iff, Bool.and_eq_false_iff,
    beq_eq_false_iff_ne, decide_eq_false_iff_not]
  omega

theorem isNumbered_of_isSurrogate {c : CodePoint} (h : c.isSurrogate = true) :
    isNumbered c = true := by
  have hc := CodePoint.isSurrogate_iff.mp h
  exact isNumbered_of_lt (by omega)

/-- A code point is escaped by its number, one beyond the basic plane by the two numbers of its
surrogate pair. -/
theorem escapePoint_of_isNumbered {c : CodePoint} (h : isNumbered c = true) :
    escapePoint c = if c.val < 0x10000 then hexEscape c.val
      else hexEscape (highHalf c).val ++ hexEscape (lowHalf c).val := by
  simp only [isNumbered, Bool.not_eq_true', Bool.or_eq_false_iff, beq_eq_false_iff_ne] at h
  obtain ⟨⟨⟨⟨⟨⟨⟨hq, hb⟩, hn⟩, hr⟩, ht⟩, hf⟩, hs⟩, hp⟩ := h
  have hprintable : ¬(0x20 ≤ c.val ∧ c.val ≤ 0x7E) := by simpa using hp
  unfold escapePoint
  simp only [hq, hb, hn, hr, ht, hf, hs, hprintable, if_false, Bool.false_eq_true]
  split
  · rfl
  · next hc => rw [highHalf_val (by omega), lowHalf_val]

/-- The units that a code point is read back as. -/
def unitsOf (c : CodePoint) : List StringUnit :=
  if 0x10000 ≤ c.val then [⟨true, highHalf c⟩, ⟨true, lowHalf c⟩] else [⟨isNumbered c, c⟩]

/-- Puts units before what the rest of a string is read as. -/
def consUnits (us : List StringUnit) (s : Step (List StringUnit)) : Step (List StringUnit) :=
  us.foldr consUnit s

theorem consUnits_ok (us vs : List StringUnit) (left : Text) :
    consUnits us (.ok (vs, left)) = .ok (us ++ vs, left) := by
  induction us with
  | nil => rfl
  | cons u us ih =>
    show consUnit u (consUnits us (.ok (vs, left))) = _
    rw [ih]
    rfl

theorem readUnits_escapePoint {opening r : Text} (c : CodePoint) (hr : r ≠ []) :
    readUnits opening (escapePoint c ++ r) = consUnits (unitsOf c) (readUnits opening r) := by
  unfold escapePoint
  split
  · next h => obtain rfl := CodePoint.eq_ofChar_of_is h; exact readUnits_escape rfl rfl
  split
  · next h => obtain rfl := CodePoint.eq_ofChar_of_is h; exact readUnits_escape rfl rfl
  split
  · next h => obtain rfl := CodePoint.eq_ofChar_of_is h; exact readUnits_escape rfl rfl
  split
  · next h => obtain rfl := CodePoint.eq_ofChar_of_is h; exact readUnits_escape rfl rfl
  split
  · next h => obtain rfl := CodePoint.eq_ofChar_of_is h; exact readUnits_escape rfl rfl
  split
  · next h =>
    obtain rfl : c = CodePoint.ofNat 12 := CodePoint.val_injective h
    exact readUnits_escape rfl rfl
  split
  · next h =>
    obtain rfl : c = CodePoint.ofNat 8 := CodePoint.val_injective h
    exact readUnits_escape rfl rfl
  split
  · next hq hb _ _ _ _ _ h =>
    rw [Bool.not_eq_true] at hq hb
    have hn : isNumbered c = false := by simp [isNumbered, h.1, h.2]
    rw [List.singleton_append, readUnits_plain hq hb h.1, unitsOf, if_neg (by omega), hn]
    rfl
  split
  · next h₁ h₂ h₃ h₄ h₅ h₆ h₇ h₈ hc =>
    have hn : isNumbered c = true := by
      simp only [isNumbered, h₁, h₂, h₃, h₄, h₅, beq_eq_false_iff_ne.mpr h₆,
        beq_eq_false_iff_ne.mpr h₇, Bool.or_self, Bool.false_or, Bool.not_eq_true']
      simpa using h₈
    rw [readUnits_hexEscape hc hr, unitsOf, if_neg (by omega), hn, CodePoint.ofNat_val]
    rfl
  · next hc =>
    have hlt := c.isLt
    rw [List.append_assoc, readUnits_hexEscape (by omega) (by simp [hexEscape, Text.ofString]),
      readUnits_hexEscape (by omega) hr, unitsOf, if_pos (by omega)]
    rfl

theorem readUnits_flatMap (opening r t : Text) :
    readUnits opening (t.flatMap escapePoint ++ CodePoint.ofChar '"' :: r)
      = .ok (t.flatMap unitsOf, r) := by
  induction t with
  | nil => exact readUnits_quote opening r
  | cons c t ih =>
    rw [List.flatMap_cons, List.append_assoc, readUnits_escapePoint c (by simp), ih, consUnits_ok,
      List.flatMap_cons]

/-! ## Joining surrogates -/

theorem joinUnits_cons_of_not_high {u : StringUnit} (us : List StringUnit)
    (h : u.point.isHighSurrogate = false) : joinUnits (u :: us) = u.point :: joinUnits us := by
  cases us with
  | nil => rfl
  | cons v us => simp [joinUnits, h]

theorem joinUnits_cons_cons_of_not_low {u v : StringUnit} (us : List StringUnit)
    (h : v.point.isLowSurrogate = false) :
    joinUnits (u :: v :: us) = u.point :: joinUnits (v :: us) := by
  simp [joinUnits, h]

theorem joinUnits_pair {a b : CodePoint} (us : List StringUnit) (ha : a.isHighSurrogate = true)
    (hb : b.isLowSurrogate = true) :
    joinUnits (⟨true, a⟩ :: ⟨true, b⟩ :: us) = CodePoint.ofSurrogates a b :: joinUnits us := by
  simp [joinUnits, ha, hb]

theorem unitsOf_of_isSurrogate {c : CodePoint} (h : c.isSurrogate = true) :
    unitsOf c = [⟨true, c⟩] := by
  have hc := CodePoint.isSurrogate_iff.mp h
  rw [unitsOf, if_neg (by omega), isNumbered_of_isSurrogate h]

theorem isSurrogate_of_isHighSurrogate {c : CodePoint} (h : c.isHighSurrogate = true) :
    c.isSurrogate = true := by
  simp only [CodePoint.isHighSurrogate, Bool.and_eq_true, decide_eq_true_eq] at h
  exact CodePoint.isSurrogate_iff.mpr ⟨h.1, by omega⟩

theorem isSurrogate_of_isLowSurrogate {c : CodePoint} (h : c.isLowSurrogate = true) :
    c.isSurrogate = true := by
  simp only [CodePoint.isLowSurrogate, Bool.and_eq_true, decide_eq_true_eq] at h
  exact CodePoint.isSurrogate_iff.mpr ⟨by omega, h.2⟩

/-- A code point that does not go together with what follows it stands for itself. -/
theorem joinUnits_unitsOf_append {c : CodePoint} {t : Text}
    (h : c.isHighSurrogate = true → ∀ d ∈ t.head?, d.isLowSurrogate = false) :
    joinUnits (unitsOf c ++ t.flatMap unitsOf) = c :: joinUnits (t.flatMap unitsOf) := by
  by_cases hc : 0x10000 ≤ c.val
  · rw [unitsOf, if_pos hc, List.cons_append, List.cons_append, List.nil_append,
      joinUnits_pair _ (highHalf_isHighSurrogate hc) (lowHalf_isLowSurrogate c),
      ofSurrogates_halves hc]
  rw [unitsOf, if_neg hc, List.singleton_append]
  cases hh : c.isHighSurrogate with
  | false => exact joinUnits_cons_of_not_high _ hh
  | true =>
    cases t with
    | nil => rfl
    | cons d t =>
      have hd : d.isLowSurrogate = false := h hh d (by simp)
      rw [List.flatMap_cons]
      by_cases hd' : 0x10000 ≤ d.val
      · rw [unitsOf, if_pos hd']
        exact joinUnits_cons_cons_of_not_low _ (highHalf_isLowSurrogate hd')
      · rw [unitsOf, if_neg hd']
        exact joinUnits_cons_cons_of_not_low _ hd

theorem joinUnits_flatMap : (t : Text) → joinUnits (t.flatMap unitsOf) = Utf16.joinSurrogates t
  | [] => rfl
  | [_] => joinUnits_unitsOf_append (t := []) (by simp)
  | a :: b :: rest => by
    by_cases h : (a.isHighSurrogate && b.isLowSurrogate) = true
    · rw [Utf16.joinSurrogates, if_pos h]
      rw [Bool.and_eq_true] at h
      rw [List.flatMap_cons, List.flatMap_cons,
        unitsOf_of_isSurrogate (isSurrogate_of_isHighSurrogate h.1),
        unitsOf_of_isSurrogate (isSurrogate_of_isLowSurrogate h.2)]
      exact (joinUnits_pair _ h.1 h.2).trans (congrArg _ (joinUnits_flatMap rest))
    · have hlow : a.isHighSurrogate = true → ∀ d ∈ (b :: rest).head?, d.isLowSurrogate = false := by
        intro ha d hd
        obtain rfl : b = d := by simpa using hd
        simpa [ha] using h
      rw [Utf16.joinSurrogates, if_neg h, List.flatMap_cons, joinUnits_unitsOf_append hlow,
        joinUnits_flatMap (b :: rest)]

/-- A string that is written is read back with its surrogate pairs joined. -/
theorem readString_writeString (opening t r : Text) :
    readString opening (t.flatMap escapePoint ++ CodePoint.ofChar '"' :: r)
      = .ok (Utf16.joinSurrogates t, r) := by
  rw [readString, readUnits_flatMap, ← joinUnits_flatMap]

end Json

end Registry
