import Registry.Json.Reader
import Registry.Json.Writer
import Registry.Proofs.Binary64.Decimal

/-!
# Numbers read back

A number is written as a sign, integral digits, perhaps a fraction and perhaps an exponent; the
reader takes exactly these parts if what follows cannot go on with a number (`takeNumber?_parts`).
An integer has neither fraction nor exponent and a floating-point number always has one of them, so
both are read back as what they were (`readAtom_ofInt`, `readAtom_text`).
-/

namespace Registry

namespace Json

/-! ## The parts of a number -/

/-- The text cannot go on with a number: no digit, point or exponent comes next. -/
def EndsNumber (r : Text) : Prop :=
  ∀ c ∈ r.head?, c.isDigit = false ∧ c.is '.' = false ∧ c.is 'e' = false ∧ c.is 'E' = false

/-- Digits of which the first is not zero. -/
def StartsPositive (ds : Text) : Prop :=
  ∃ c t, ds = c :: t ∧ c.is '0' = false ∧ Text.AllDigits ds

/-- Integral digits: a zero alone, or digits of which the first is not zero. -/
def IsWhole (w : Text) : Prop := w = [CodePoint.ofChar '0'] ∨ StartsPositive w

def fractionText : Option Text → Text
  | none => []
  | some f => CodePoint.ofChar '.' :: f

/-- The text of an optional exponent. -/
def exponentPart : Option Int → Text
  | none => []
  | some e => Numeral.exponentText e

/-- An exponent that is left out, or the letter E with digits that may have a sign. -/
inductive IsExponent : Text → Option Int → Prop
  | absent : IsExponent [] none
  | present {mark : CodePoint} {sign ds : Text} {negative : Bool}
      (hmark : (mark.is 'e' || mark.is 'E') = true)
      (hsign : sign = Binary64.signText negative ∨ sign = "+" ∧ negative = false) (hne : ds ≠ [])
      (hdigits : Text.AllDigits ds) :
      IsExponent (mark :: (sign ++ ds))
        (some (if negative then -(Text.digitsValue ds : Int) else Text.digitsValue ds))

theorem EndsNumber.noDigitNext {r : Text} (h : EndsNumber r) : Text.NoDigitNext r :=
  fun c hc => (h c hc).1

theorem takeDigits_append {ds r : Text} (hd : Text.AllDigits ds) (hr : Text.NoDigitNext r) :
    takeDigits (ds ++ r) = (ds, r) := by
  rw [takeDigits, Text.takeWhile_append_stop hd hr, Text.dropWhile_append_stop hd hr]

theorem IsWhole.allDigits {w : Text} (h : IsWhole w) : Text.AllDigits w := by
  rcases h with rfl | ⟨c, t, -, -, hd⟩
  · exact Text.allDigits_zeros 1
  · exact hd

theorem IsWhole.exists_cons {w : Text} (h : IsWhole w) : ∃ c t, w = c :: t ∧ c.isDigit = true := by
  obtain ⟨c, t, rfl⟩ : ∃ c t, w = c :: t := by
    rcases h with rfl | ⟨c, t, rfl, -⟩
    · exact ⟨_, _, rfl⟩
    · exact ⟨c, t, rfl⟩
  exact ⟨c, t, rfl, h.allDigits c (by simp)⟩

theorem takeWhole?_append {w r : Text} (hw : IsWhole w) (hr : Text.NoDigitNext r) :
    takeWhole? (w ++ r) = some (w, r) := by
  rcases hw with rfl | ⟨c, t, rfl, h0, hd⟩
  · rfl
  · have hc : c.isDigit = true := hd c (by simp)
    show (if c.is '0' then _ else if c.isDigit then some (takeDigits (c :: t ++ r)) else none) = _
    rw [if_neg (by simp [h0]), if_pos hc, takeDigits_append hd hr]

theorem takeFraction_append {f : Option Text} {r : Text}
    (hf : ∀ t ∈ f, t ≠ [] ∧ Text.AllDigits t)
    (hr : ∀ c ∈ r.head?, c.isDigit = false ∧ c.is '.' = false) :
    takeFraction (fractionText f ++ r) = (f, r) := by
  cases f with
  | none =>
    cases r with
    | nil => rfl
    | cons c r =>
      show (if (c.is '.' && _) = true then _ else _) = _
      rw [(hr c (by simp)).2, Bool.false_and]
      rfl
  | some f =>
    obtain ⟨hne, hd⟩ := hf f rfl
    have htake := takeDigits_append hd (r := r) fun c hc => (hr c hc).1
    have hf' : f.isEmpty = false := by simpa using hne
    show (if ((CodePoint.ofChar '.').is '.' && !(takeDigits (f ++ r)).1.isEmpty) = true then
      (some (takeDigits (f ++ r)).1, (takeDigits (f ++ r)).2) else _) = _
    rw [htake, hf']
    rfl

theorem isDigit_ne_sign {c : CodePoint} (h : c.isDigit = true) :
    c.is '-' = false ∧ c.is '+' = false := by
  have hc := CodePoint.isDigit_iff.mp h
  simp only [CodePoint.is_eq_false_iff, show '-'.toNat = 45 from rfl, show '+'.toNat = 43 from rfl]
  omega

theorem takeSign_append {sign ds : Text} {negative : Bool}
    (hsign : sign = Binary64.signText negative ∨ sign = "+" ∧ negative = false) (hne : ds ≠ [])
    (hdigits : Text.AllDigits ds) (r : Text) :
    takeSign (sign ++ ds ++ r) = (negative, ds ++ r) := by
  obtain ⟨c, ds, rfl⟩ := List.exists_cons_of_ne_nil hne
  obtain ⟨hminus, hplus⟩ := isDigit_ne_sign (hdigits c List.mem_cons_self)
  rcases hsign with rfl | ⟨rfl, rfl⟩
  · cases negative with
    | true => rfl
    | false =>
      show (if c.is '-' then _ else if c.is '+' then _ else _) = _
      rw [hminus, hplus]
      rfl
  · rfl

theorem takeExponent_append {x r : Text} {e : Option Int} (hx : IsExponent x e)
    (hr : EndsNumber r) : takeExponent (x ++ r) = (e, r) := by
  cases hx with
  | absent =>
    cases r with
    | nil => rfl
    | cons c r =>
      obtain ⟨-, -, he, hE⟩ := hr c (by simp)
      show (if ((c.is 'e' || c.is 'E') && _) = true then _ else _) = _
      rw [he, hE, Bool.or_self, Bool.false_and]
      rfl
  | @present mark sign ds negative hmark hsign hne hdigits =>
    have hempty : ds.isEmpty = false := List.isEmpty_eq_false_iff.mpr hne
    show takeExponent (mark :: (sign ++ ds ++ r)) = _
    unfold takeExponent
    simp only [takeSign_append hsign hne hdigits, takeDigits_append hdigits hr.noDigitNext, hmark,
      hempty, Bool.not_false, Bool.and_self, if_true]

theorem isExponent_exponentPart (e : Option Int) : IsExponent (exponentPart e) e := by
  cases e with
  | none => exact .absent
  | some e =>
    have hne : Text.padded 2 e.natAbs ≠ [] :=
      List.append_ne_nil_of_right_ne_nil _ (Text.ofNat_ne_nil _)
    have h (negative : Bool) {sign : Text}
        (hsign : sign = Binary64.signText negative ∨ sign = "+" ∧ negative = false) :=
      @IsExponent.present (.ofChar 'e') sign _ negative rfl hsign hne
        (Text.padded_allDigits 2 e.natAbs)
    simp only [Text.digitsValue_padded] at h
    show IsExponent (Numeral.exponentText e) (some e)
    unfold Numeral.exponentText
    split
    · have hminus := h true (.inl rfl)
      rwa [if_pos rfl, show -(e.natAbs : Int) = e by omega] at hminus
    · have hplus := h false (.inr ⟨rfl, rfl⟩)
      rwa [if_neg Bool.false_ne_true, show (e.natAbs : Int) = e by omega] at hplus

/-! ## Whole numbers -/

theorem IsExponent.head?_append {x r : Text} {e : Option Int} (hx : IsExponent x e)
    (hr : EndsNumber r) : ∀ c ∈ (x ++ r).head?, c.isDigit = false ∧ c.is '.' = false := by
  intro c hc
  cases hx with
  | absent => exact ⟨(hr c hc).1, (hr c hc).2.1⟩
  | present hmark =>
    cases hc
    rcases Bool.or_eq_true_iff.mp hmark with h | h
    · rw [CodePoint.eq_ofChar_of_is h]
      decide
    · rw [CodePoint.eq_ofChar_of_is h]
      decide

theorem head?_fractionText_append {f : Option Text} {r : Text} (hr : Text.NoDigitNext r) :
    Text.NoDigitNext (fractionText f ++ r) := by
  cases f with
  | none => exact hr
  | some f =>
    intro c hc
    cases hc
    decide

/-- A number is read as the parts that it is written in. -/
theorem takeNumber?_parts {negative : Bool} {w x : Text} {f : Option Text} {e : Option Int}
    {r : Text} (hw : IsWhole w) (hf : ∀ t ∈ f, t ≠ [] ∧ Text.AllDigits t) (hx : IsExponent x e)
    (hr : EndsNumber r) :
    takeNumber? (Binary64.signText negative ++ (w ++ (fractionText f ++ (x ++ r))))
      = some (⟨negative, w, f, e⟩, r) := by
  have hexp := hx.head?_append hr
  have hminus : takeMinus (Binary64.signText negative ++ (w ++ (fractionText f ++ (x ++ r))))
      = (negative, w ++ (fractionText f ++ (x ++ r))) := by
    cases negative with
    | true => rfl
    | false =>
      obtain ⟨c, t, rfl, hc⟩ := hw.exists_cons
      show (if c.is '-' then _ else _) = _
      rw [(isDigit_ne_sign hc).1]
      rfl
  unfold takeNumber?
  simp only [hminus, takeWhole?_append hw (head?_fractionText_append fun c hc => (hexp c hc).1),
    takeFraction_append hf hexp, takeExponent_append hx hr, Option.bind_eq_bind, Option.bind_some,
    Option.pure_def]

/-- What begins with a sign and a digit is no literal. -/
theorem takeLiteral?_number {negative : Bool} {w r : Text} (hw : IsWhole w) :
    takeLiteral? (Binary64.signText negative ++ (w ++ r)) = none := by
  obtain ⟨c, t, rfl, hc⟩ := hw.exists_cons
  have hc := CodePoint.isDigit_iff.mp hc
  have hne (x : Char) (hx : 0x39 < x.toNat) : CodePoint.ofChar x ≠ c := by
    intro h
    rw [← h, CodePoint.ofChar_val] at hc
    omega
  have hm (x : Char) (hx : x.toNat < 0x30) : CodePoint.ofChar x ≠ c := by
    intro h
    rw [← h, CodePoint.ofChar_val] at hc
    omega
  cases negative with
  | true =>
    have hd (x : Char) (hx : x.toNat ≠ '-'.toNat) : CodePoint.ofChar x ≠ CodePoint.ofChar '-' :=
      fun h => hx (congrArg CodePoint.val h)
    show takeLiteral? (CodePoint.ofChar '-' :: c :: (t ++ r)) = none
    simp [takeLiteral?, literals, Text.ofString, Text.dropPrefix?, hne 'I' (by decide),
      hd 'n' (by decide), hd 't' (by decide), hd 'f' (by decide), hd 'N' (by decide),
      hd 'I' (by decide)]
  | false =>
    show takeLiteral? (c :: (t ++ r)) = none
    simp [takeLiteral?, literals, Text.ofString, Text.dropPrefix?, hm '-' (by decide),
      hne 'n' (by decide), hne 't' (by decide), hne 'f' (by decide), hne 'N' (by decide),
      hne 'I' (by decide)]

theorem readAtom_parts (negative : Bool) {w x : Text} {f : Option Text} {e : Option Int} {r : Text}
    (hw : IsWhole w) (hf : ∀ t ∈ f, t ≠ [] ∧ Text.AllDigits t) (hx : IsExponent x e)
    (hr : EndsNumber r) :
    readAtom (Binary64.signText negative ++ (w ++ (fractionText f ++ (x ++ r))))
      = (Number.value ⟨negative, w, f, e⟩).map fun v => (v, r) := by
  rw [readAtom, takeLiteral?_number hw, takeNumber?_parts hw hf hx hr]

/-! ## What is taken -/

theorem takeDigits_allDigits (t : Text) : Text.AllDigits (takeDigits t).1 :=
  List.all_eq_true.mp List.all_takeWhile

theorem append_takeDigits (t : Text) : (takeDigits t).1 ++ (takeDigits t).2 = t :=
  List.takeWhile_append_dropWhile

theorem append_takeMinus (t : Text) :
    Binary64.signText (takeMinus t).1 ++ (takeMinus t).2 = t := by
  cases t with
  | nil => rfl
  | cons c t =>
    rw [takeMinus]
    split
    · next h =>
      obtain rfl := CodePoint.eq_ofChar_of_is h
      rfl
    · rfl

theorem takeWhole?_eq_some {t w r : Text} (h : takeWhole? t = some (w, r)) :
    t = w ++ r ∧ IsWhole w := by
  cases t with
  | nil => cases h
  | cons c t =>
    rw [takeWhole?] at h
    split at h
    · next h0 =>
      cases h
      obtain rfl := CodePoint.eq_ofChar_of_is h0
      exact ⟨rfl, .inl rfl⟩
    · next h0 =>
      split at h
      · next hc =>
        have happend := append_takeDigits (c :: t)
        have hdigits := takeDigits_allDigits (c :: t)
        have hw : (takeDigits (c :: t)).1 = c :: t.takeWhile CodePoint.isDigit :=
          List.takeWhile_cons_of_pos hc
        rw [Option.some.inj h] at happend hdigits hw
        refine ⟨happend.symm, .inr ⟨c, _, hw, ?_, hdigits⟩⟩
        simpa using h0
      · cases h

theorem takeFraction_eq {t r : Text} {f : Option Text} (h : takeFraction t = (f, r)) :
    t = fractionText f ++ r ∧ ∀ s ∈ f, s ≠ [] ∧ Text.AllDigits s := by
  cases t with
  | nil =>
    cases h
    exact ⟨rfl, nofun⟩
  | cons c t =>
    rw [takeFraction] at h
    split at h
    · next hc =>
      cases h
      simp only [Bool.and_eq_true, Bool.not_eq_true', List.isEmpty_eq_false_iff] at hc
      obtain ⟨hpoint, hne⟩ := hc
      obtain rfl := CodePoint.eq_ofChar_of_is hpoint
      refine ⟨congrArg _ (append_takeDigits t).symm, ?_⟩
      rintro s ⟨⟩
      exact ⟨hne, takeDigits_allDigits t⟩
    · cases h
      exact ⟨rfl, nofun⟩

theorem takeSign_eq (t : Text) : ∃ sign, t = sign ++ (takeSign t).2
    ∧ (sign = Binary64.signText (takeSign t).1 ∨ sign = "+" ∧ (takeSign t).1 = false) := by
  cases t with
  | nil => exact ⟨[], rfl, .inl rfl⟩
  | cons c t =>
    rw [takeSign]
    split
    · next h =>
      obtain rfl := CodePoint.eq_ofChar_of_is h
      exact ⟨"-", rfl, .inl rfl⟩
    split
    · next h =>
      obtain rfl := CodePoint.eq_ofChar_of_is h
      exact ⟨"+", rfl, .inr ⟨rfl, rfl⟩⟩
    · exact ⟨[], rfl, .inl rfl⟩

theorem takeExponent_eq {t r : Text} {e : Option Int} (h : takeExponent t = (e, r)) :
    ∃ x, t = x ++ r ∧ IsExponent x e := by
  cases t with
  | nil =>
    cases h
    exact ⟨[], rfl, .absent⟩
  | cons c t =>
    obtain ⟨sign, hsign, hnegative⟩ := takeSign_eq t
    have hdigits := takeDigits_allDigits (takeSign t).2
    have happend := append_takeDigits (takeSign t).2
    rw [takeExponent] at h
    simp only at h
    split at h
    · next hc =>
      cases h
      simp only [Bool.and_eq_true, Bool.not_eq_true', List.isEmpty_eq_false_iff] at hc
      refine ⟨c :: (sign ++ (takeDigits (takeSign t).2).1), ?_,
        .present hc.1 hnegative hc.2 hdigits⟩
      rw [List.cons_append, List.append_assoc, happend, ← hsign]
    · cases h
      exact ⟨[], rfl, .absent⟩

/-- What is taken for a number has the parts of one. -/
theorem takeNumber?_eq_some {t r : Text} {n : Number} (h : takeNumber? t = some (n, r)) :
    ∃ x, t = Binary64.signText n.negative ++ (n.whole ++ (fractionText n.fraction ++ (x ++ r)))
      ∧ IsWhole n.whole ∧ (∀ f ∈ n.fraction, f ≠ [] ∧ Text.AllDigits f)
      ∧ IsExponent x n.exponent := by
  have hminus := append_takeMinus t
  rcases hsign : takeMinus t with ⟨negative, t₀⟩
  rw [hsign] at hminus
  cases hwhole : takeWhole? t₀ with
  | none => simp [takeNumber?, hsign, hwhole] at h
  | some p =>
    obtain ⟨w, t₁⟩ := p
    rcases hfraction : takeFraction t₁ with ⟨f, t₂⟩
    rcases hexponent : takeExponent t₂ with ⟨e, t₃⟩
    simp only [takeNumber?, hsign, hwhole, hfraction, hexponent, Option.bind_eq_bind,
      Option.bind_some, Option.pure_def] at h
    cases h
    obtain ⟨rfl, hw⟩ := takeWhole?_eq_some hwhole
    obtain ⟨rfl, hf⟩ := takeFraction_eq hfraction
    obtain ⟨x, rfl, hx⟩ := takeExponent_eq hexponent
    exact ⟨x, hminus.symm, hw, hf, hx⟩

/-! ## Integers -/

theorem ofNat_isWhole (n : Nat) : IsWhole (Text.ofNat n) := by
  rcases Nat.eq_zero_or_pos n with rfl | h
  · exact .inl Text.ofNat_zero
  · obtain ⟨c, t, e, -, h0⟩ := Text.ofNat_eq_cons h
    exact .inr ⟨c, t, e, h0, Text.ofNat_allDigits n⟩

theorem ofInt_eq_signText (n : Int) :
    Text.ofInt n = Binary64.signText (decide (n < 0)) ++ Text.ofNat n.natAbs := by
  unfold Text.ofInt
  by_cases h : n < 0
  · rw [if_pos h, decide_eq_true h]
    rfl
  · rw [if_neg h, decide_eq_false h]
    rfl

/-- An integer is read back. -/
theorem readAtom_ofInt {n : Int} {r : Text}
    (hn : (Nat.toDigits 10 n.natAbs).length ≤ integerDigitLimit) (hr : EndsNumber r) :
    readAtom (Text.ofInt n ++ r) = .ok (.int n, r) := by
  have h := readAtom_parts (decide (n < 0)) (f := none)
    (ofNat_isWhole n.natAbs) (by simp) .absent hr
  rw [ofInt_eq_signText, List.append_assoc]
  refine h.trans ?_
  rw [Number.value]
  simp only
  rw [if_neg (by rw [Text.length_ofNat]; omega), Text.digitsValue_ofNat]
  by_cases hneg : n < 0
  · rw [decide_eq_true hneg, if_pos rfl, show -(n.natAbs : Int) = n by omega]
    rfl
  · rw [decide_eq_false hneg, if_neg (by decide), show (n.natAbs : Int) = n by omega]
    rfl

/-! ## Floating-point numbers -/

/-- The text has the parts of a floating-point number, and what they are read as. -/
def IsFloatText (t : Text) (m : Option Magnitude) : Prop :=
  ∃ (w : Text) (f : Option Text) (e : Option Int), t = w ++ (fractionText f ++ exponentPart e)
    ∧ IsWhole w ∧ (∀ s ∈ f, s ≠ [] ∧ Text.AllDigits s) ∧ (f.isSome ∨ e.isSome)
    ∧ Magnitude.ofDecimal? (Text.digitsValue (w ++ f.getD [])) (e.getD 0 - (f.getD []).length) = m

theorem readAtom_of_isFloatText {negative : Bool} {t r : Text} {m : Magnitude}
    (ht : IsFloatText t (some m)) (hr : EndsNumber r) :
    readAtom (Binary64.signText negative ++ (t ++ r)) = .ok (.float (.finite negative m), r) := by
  obtain ⟨w, f, e, rfl, hw, hf, hfe, hm⟩ := ht
  rw [List.append_assoc, List.append_assoc, readAtom_parts _ hw hf (isExponent_exponentPart e) hr]
  have hv : Number.value ⟨negative, w, f, e⟩ = .ok (.float (Binary64.ofDecimal negative
      (Text.digitsValue (w ++ f.getD [])) (e.getD 0 - (f.getD []).length))) := by
    cases f <;> cases e <;> first | rfl | simp at hfe
  rw [hv, Binary64.ofDecimal, hm]
  rfl

theorem StartsPositive.allDigits {ds : Text} (h : StartsPositive ds) : Text.AllDigits ds := by
  obtain ⟨c, t, -, -, hd⟩ := h
  exact hd

theorem StartsPositive.append {ds es : Text} (h : StartsPositive ds) (he : Text.AllDigits es) :
    StartsPositive (ds ++ es) := by
  obtain ⟨c, t, rfl, h0, hd⟩ := h
  exact ⟨c, t ++ es, rfl, h0, hd.append he⟩

theorem StartsPositive.take {ds : Text} (h : StartsPositive ds) {n : Nat} (hn : 0 < n) :
    StartsPositive (ds.take n) := by
  obtain ⟨c, t, rfl, h0, hd⟩ := h
  obtain ⟨k, rfl⟩ : ∃ k, n = k + 1 := ⟨n - 1, by omega⟩
  refine ⟨c, t.take k, rfl, h0, ?_⟩
  exact Text.AllDigits.of_append_left (t := (c :: t).drop (k + 1)) (by rwa [List.take_append_drop])

theorem allDigits_drop {ds : Text} (h : Text.AllDigits ds) (n : Nat) :
    Text.AllDigits (ds.drop n) :=
  Text.AllDigits.of_append_right (s := ds.take n) (by rwa [List.take_append_drop])

/-- Digits that all stand behind the point, after some zeros. -/
theorem isFloatText_behind {ds : Text} (h : StartsPositive ds) (k : Nat) :
    IsFloatText (Text.ofString "0." ++ Text.zeros k ++ ds)
      (Magnitude.ofDecimal? (Text.digitsValue ds) (-k - ds.length)) := by
  have hall := h.allDigits
  obtain ⟨c, t, hds, -⟩ := h
  have hne : Text.zeros k ++ ds ≠ [] := by
    rw [hds]
    exact List.append_ne_nil_of_right_ne_nil _ (List.cons_ne_nil c t)
  refine ⟨[CodePoint.ofChar '0'], some (Text.zeros k ++ ds), none, ?_, .inl rfl, ?_, by simp, ?_⟩
  · show _ = CodePoint.ofChar '0' :: (CodePoint.ofChar '.' :: (Text.zeros k ++ ds) ++ [])
    rw [List.append_nil, List.append_assoc]
    rfl
  · rintro s ⟨⟩
    exact ⟨hne, (Text.allDigits_zeros k).append hall⟩
  · have hv : Text.digitsValue ([CodePoint.ofChar '0'] ++ (Text.zeros k ++ ds))
        = Text.digitsValue ds := by
      rw [← List.append_assoc, Text.digitsValue_append]
      show Text.digitsValue (Text.zeros (k + 1)) * _ + _ = _
      rw [Text.zeros, Text.digitsValue_zeros, Nat.zero_mul, Nat.zero_add]
    rw [Option.getD_some, hv]
    simp only [Option.getD_none, List.length_append, Text.zeros, List.length_replicate]
    congr 1
    push_cast
    ring

/-- Digits that all stand before the point, with some zeros after them. -/
theorem isFloatText_before {ds : Text} (h : StartsPositive ds) (k : Nat) :
    IsFloatText (ds ++ Text.zeros k ++ Text.ofString ".0")
      (Magnitude.ofDecimal? (Text.digitsValue ds) k) := by
  obtain ⟨c, t, hds, h0, hd⟩ := h.append (Text.allDigits_zeros k)
  refine ⟨ds ++ Text.zeros k, some (Text.zeros 1), none, ?_, .inr ⟨c, t, hds, h0, hd⟩, ?_, by simp,
    ?_⟩
  · rfl
  · rintro s ⟨⟩
    exact ⟨by simp [Text.zeros], Text.allDigits_zeros 1⟩
  · have hv : Text.digitsValue (ds ++ Text.zeros k ++ Text.zeros 1)
        = Text.digitsValue ds * 10 ^ (k + 1) := by
      rw [Text.digitsValue_append, Text.digitsValue_append, Text.zeros, Text.zeros,
        Text.digitsValue_zeros, Text.digitsValue_zeros, List.length_replicate,
        List.length_replicate]
      ring
    rw [Option.getD_some, hv, Magnitude.ofDecimal?_mul_pow]
    simp only [Option.getD_none, Text.zeros, List.length_replicate]
    congr 1
    push_cast
    ring

/-- Digits with the point between them. -/
theorem isFloatText_between {ds : Text} (h : StartsPositive ds) {k : Nat} (hk : 0 < k)
    (hlt : k < ds.length) :
    IsFloatText (ds.take k ++ Text.ofString "." ++ ds.drop k)
      (Magnitude.ofDecimal? (Text.digitsValue ds) (k - ds.length)) := by
  refine ⟨ds.take k, some (ds.drop k), none, ?_, .inr (h.take hk), ?_, by simp, ?_⟩
  · show _ = ds.take k ++ (CodePoint.ofChar '.' :: ds.drop k ++ [])
    rw [List.append_nil, List.append_assoc]
    rfl
  · rintro s ⟨⟩
    exact ⟨by simpa using hlt, allDigits_drop h.allDigits k⟩
  · simp only [Option.getD_some, Option.getD_none, List.take_append_drop, List.length_drop]
    congr 1
    omega

/-- One digit before the point, the others behind it, and an exponent. -/
theorem isFloatText_scientific {ds : Text} (h : StartsPositive ds) (e : Int) :
    IsFloatText (ds.take 1 ++ Numeral.behindPoint false (ds.drop 1) ++ Numeral.exponentText e)
      (Magnitude.ofDecimal? (Text.digitsValue ds) (e + 1 - ds.length)) := by
  have hw := h.take (n := 1) (by decide)
  obtain ⟨c, t, rfl, -, hd⟩ := h
  cases t with
  | nil =>
    refine ⟨[c], none, some e, rfl, .inr hw, by simp, by simp, ?_⟩
    simp only [Option.getD_some, Option.getD_none, List.append_nil, List.length_nil,
      List.length_singleton]
    congr 1
    push_cast
    ring
  | cons d t =>
    refine ⟨[c], some (d :: t), some e, rfl, .inr hw, ?_, by simp, ?_⟩
    · rintro s ⟨⟩
      exact ⟨by simp, hd.of_cons⟩
    · simp only [Option.getD_some, List.singleton_append, List.length_cons]
      congr 1
      push_cast
      ring

/-- However digits are laid out, they are read as the number that they are. -/
theorem isFloatText_layout {ds : Text} (h : StartsPositive ds) (point : Int) :
    IsFloatText (Numeral.full.layout ds point)
      (Magnitude.ofDecimal? (Text.digitsValue ds) (point - ds.length)) := by
  unfold Numeral.layout
  simp only [Numeral.full, Nat.zero_sub, Text.zeros, List.replicate_zero, List.append_nil]
  split
  · split
    · have := isFloatText_behind h (-point).toNat
      rwa [show -((-point).toNat : Int) = point by omega] at this
    split
    · have := isFloatText_before h (point.toNat - ds.length)
      rwa [show ((point.toNat - ds.length : Nat) : Int) = point - ds.length by omega] at this
    · have := isFloatText_between h (k := point.toNat) (by omega) (by omega)
      rwa [show (point.toNat : Int) = point by omega] at this
  · have := isFloatText_scientific h (point - 1)
    rwa [show point - 1 + 1 = point by omega] at this

/-- A text is what is left without the zeros at its end, and these zeros. -/
theorem exists_zeros_dropEndZeros (t : Text) :
    ∃ k, t = Text.dropEndZeros t ++ Text.zeros k := by
  refine ⟨(t.reverse.takeWhile fun c => c == CodePoint.ofChar '0').length, ?_⟩
  have hz : Text.zeros (t.reverse.takeWhile fun c => c == CodePoint.ofChar '0').length
      = (t.reverse.takeWhile fun c => c == CodePoint.ofChar '0') := by
    refine (List.eq_replicate_of_mem fun c hc => ?_).symm
    simpa using List.all_eq_true.mp List.all_takeWhile c hc
  have h := congrArg List.reverse
    (List.takeWhile_append_dropWhile (p := fun c => c == CodePoint.ofChar '0') (l := t.reverse))
  rw [List.reverse_append, List.reverse_reverse] at h
  rw [hz, Text.dropEndZeros]
  conv_lhs => rw [← h]
  rw [← hz, Text.zeros, List.reverse_replicate]

/-- The digits of a positive number are digits that begin with a positive one, and zeros. -/
theorem exists_dropEndZeros_ofNat {n : Nat} (hn : 0 < n) :
    ∃ k, Text.ofNat n = Text.dropEndZeros (Text.ofNat n) ++ Text.zeros k
      ∧ StartsPositive (Text.dropEndZeros (Text.ofNat n))
      ∧ n = Text.digitsValue (Text.dropEndZeros (Text.ofNat n)) * 10 ^ k := by
  obtain ⟨k, hk⟩ := exists_zeros_dropEndZeros (Text.ofNat n)
  refine ⟨k, hk, ?_, ?_⟩
  · obtain ⟨c, t, hall, -, hc⟩ := Text.ofNat_eq_cons hn
    have hall' := Text.ofNat_allDigits n
    rw [hk] at hall hall'
    generalize Text.dropEndZeros (Text.ofNat n) = ds at hall hall' ⊢
    cases ds with
    | nil =>
      -- a number of zeros only does not begin with another digit
      have hmem : c ∈ Text.zeros k := by
        rw [← List.nil_append (Text.zeros k), hall]
        exact List.mem_cons_self
      rw [List.eq_of_mem_replicate hmem] at hc
      cases hc
    | cons d ds =>
      cases hall
      exact ⟨c, ds, rfl, hc, hall'.of_append_left⟩
  · have hvalue := Text.digitsValue_ofNat n
    rw [hk, Text.digitsValue_append, Text.zeros, Text.digitsValue_zeros,
      List.length_replicate] at hvalue
    exact hvalue.symm

theorem isFloatText_shortestText (m : Magnitude) :
    IsFloatText (m.shortestText Numeral.full) (some m) := by
  unfold Magnitude.shortestText
  split
  · next h0 =>
    have hm : some m = Magnitude.ofDecimal? 0 0 := congrArg some (Magnitude.ext h0)
    rw [hm]
    refine ⟨Text.zeros 1, some (Text.zeros 1), none, rfl, .inl rfl, ?_, by simp, rfl⟩
    rintro s ⟨⟩
    exact ⟨by simp [Text.zeros], Text.allDigits_zeros 1⟩
  · next h0 =>
    have hread := m.ofDecimal?_shortest
    have hpos : 0 < m.shortest.digits := by
      rw [Nat.pos_iff_ne_zero]
      intro hz
      rw [hz, show Magnitude.ofDecimal? 0 m.shortest.exponent = some 0 from rfl] at hread
      cases hread
      exact h0 rfl
    obtain ⟨k, hk, hstart, hv⟩ := exists_dropEndZeros_ofNat hpos
    have hlen := congrArg List.length hk
    rw [List.length_append, Text.zeros, List.length_replicate] at hlen
    rw [Numeral.text]
    generalize Text.dropEndZeros (Text.ofNat m.shortest.digits) = ds at hstart hv hlen ⊢
    simp only [hlen]
    rw [hv, Magnitude.ofDecimal?_mul_pow] at hread
    have h := isFloatText_layout hstart ((ds.length + k : Nat) + m.shortest.exponent)
    rwa [show ((ds.length + k : Nat) : Int) + m.shortest.exponent - ds.length
      = m.shortest.exponent + k by push_cast; ring, hread] at h

/-- A finite number is read back. -/
theorem readAtom_text {x : Binary64} {r : Text} (hx : x.isFinite = true) (hr : EndsNumber r) :
    readAtom (x.text ++ r) = .ok (.float x, r) := by
  cases x with
  | nan => cases hx
  | infinite negative => cases hx
  | finite negative m =>
    show readAtom (Binary64.signText negative ++ m.shortestText Numeral.full ++ r) = _
    rw [List.append_assoc]
    exact readAtom_of_isFloatText (isFloatText_shortestText m) hr

end Json

end Registry
