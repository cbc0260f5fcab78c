import Registry.Proofs.Json.Sound

/-!
# How deep a text is nested

The nesting of a text is the most brackets and braces that are open at one place, those in strings
left out; it is defined for every text, document or not. What denotes a value closes all that it
opens (`Denotes.deepest_le`), so reading stops at the limit of levels only in a text that is nested
more deeply (`readValue_stopsBeyond`).
-/

namespace Registry.Json

/-- Where in a text a place is: outside all strings, inside one, or behind a backslash in one. -/
inductive Region
  | outside
  | inside
  | escaped

/-- The most brackets and braces that are open at one place, if `depth` of them are open before the
text. The number is looked at where one is closed and at the end, as it falls nowhere else. -/
def deepest : Region → (depth : Nat) → Text → Nat
  | _, depth, [] => depth
  | .escaped, depth, _ :: t => deepest .inside depth t
  | .inside, depth, c :: t =>
    if c.is '"' then deepest .outside depth t
    else if c.is '\\' then deepest .escaped depth t
    else deepest .inside depth t
  | .outside, depth, c :: t =>
    if c.is '"' then deepest .inside depth t
    else if c.is '[' || c.is '\x7b' then deepest .outside (depth + 1) t
    else if c.is ']' || c.is '\x7d' then max depth (deepest .outside (depth - 1) t)
    else deepest .outside depth t

/-- The most brackets and braces that are open at one place of a text. -/
def nesting (t : Text) : Nat := deepest .outside 0 t

/-! ## One code point -/

theorem le_deepest (region : Region) (depth : Nat) (t : Text) :
    depth ≤ deepest region depth t := by
  fun_induction deepest region depth t with
  | case1 => exact Nat.le_refl _
  | case7 _ _ _ _ _ ih => exact Nat.le_of_succ_le ih
  | case8 => exact Nat.le_max_left _ _
  | _ => assumption

/-- A code point that neither opens nor closes anything. -/
def IsUnmarked (c : CodePoint) : Prop :=
  c.is '"' = false ∧ (c.is '[' || c.is '\x7b') = false ∧ (c.is ']' || c.is '\x7d') = false

instance (c : CodePoint) : Decidable (IsUnmarked c) := inferInstanceAs (Decidable (_ ∧ _))

theorem deepest_cons {c : CodePoint} (h : IsUnmarked c) (depth : Nat) (t : Text) :
    deepest .outside depth (c :: t) = deepest .outside depth t := by
  obtain ⟨hquote, hopen, hclose⟩ := h
  rw [deepest]
  simp only [hquote, hopen, hclose, Bool.false_eq_true, if_false]

theorem deepest_append {s : Text} (h : ∀ c ∈ s, IsUnmarked c) (depth : Nat) (t : Text) :
    deepest .outside depth (s ++ t) = deepest .outside depth t := by
  induction s with
  | nil => rfl
  | cons c s ih =>
    rw [List.forall_mem_cons] at h
    rw [List.cons_append, deepest_cons h.1, ih h.2]

/-- Opening an array or an object adds a level. -/
theorem deepest_open {c : Char} (h : c = '[' ∨ c = '\x7b') (depth : Nat) (t : Text) :
    deepest .outside depth (CodePoint.ofChar c :: t) = deepest .outside (depth + 1) t := by
  rcases h with rfl | rfl <;> rfl

/-- Closing an array or an object takes a level away. -/
theorem deepest_close {c : Char} (h : c = ']' ∨ c = '\x7d') (depth : Nat) (t : Text) :
    deepest .outside (depth + 1) (CodePoint.ofChar c :: t)
      = max (depth + 1) (deepest .outside depth t) := by
  rcases h with rfl | rfl <;> rfl

/-! ## Parts without levels -/

theorem isUnmarked_iff {c : CodePoint} : IsUnmarked c
    ↔ c.val ≠ 0x22 ∧ c.val ≠ 0x5B ∧ c.val ≠ 0x7B ∧ c.val ≠ 0x5D ∧ c.val ≠ 0x7D := by
  simp only [IsUnmarked, Bool.or_eq_false_iff, CodePoint.is_eq_false_iff,
    show '"'.toNat = 0x22 from rfl, show '\x7b'.toNat = 0x7B from rfl,
    show '\x7d'.toNat = 0x7D from rfl, show '['.toNat = 0x5B from rfl,
    show ']'.toNat = 0x5D from rfl]
  tauto

theorem IsBlankText.isUnmarked {b : Text} (hb : IsBlankText b) : ∀ c ∈ b, IsUnmarked c := by
  intro c hc
  have h := hb c hc
  simp only [isBlank, Bool.or_eq_true, beq_iff_eq] at h
  rw [isUnmarked_iff]
  omega

theorem isUnmarked_of_allDigits {ds : Text} (h : Text.AllDigits ds) : ∀ c ∈ ds, IsUnmarked c := by
  intro c hc
  have hd := CodePoint.isDigit_iff.mp (h c hc)
  rw [isUnmarked_iff]
  omega

theorem isUnmarked_signText (negative : Bool) :
    ∀ c ∈ Binary64.signText negative, IsUnmarked c := by
  cases negative <;> decide

theorem isUnmarked_fractionText {f : Option Text} (hf : ∀ t ∈ f, t ≠ [] ∧ Text.AllDigits t) :
    ∀ c ∈ fractionText f, IsUnmarked c := by
  cases f with
  | none => exact fun c hc => absurd hc List.not_mem_nil
  | some t => exact List.forall_mem_cons.mpr ⟨by decide, isUnmarked_of_allDigits (hf t rfl).2⟩

theorem IsExponent.isUnmarked {x : Text} {e : Option Int} (hx : IsExponent x e) :
    ∀ c ∈ x, IsUnmarked c := by
  cases hx with
  | absent => exact fun c hc => absurd hc List.not_mem_nil
  | @present mark sign ds negative hmark hsign hne hdigits =>
    refine List.forall_mem_cons.mpr ⟨?_, List.forall_mem_append.mpr ⟨?_, ?_⟩⟩
    · rcases Bool.or_eq_true_iff.mp hmark with h | h
      · rw [CodePoint.eq_ofChar_of_is h]
        decide
      · rw [CodePoint.eq_ofChar_of_is h]
        decide
    · rcases hsign with rfl | ⟨rfl, -⟩
      · exact isUnmarked_signText negative
      · decide
    · exact isUnmarked_of_allDigits hdigits

theorem deepest_skipBlanks (depth : Nat) (t : Text) :
    deepest .outside depth (skipBlanks t) = deepest .outside depth t := by
  obtain ⟨b, hb, ht⟩ := exists_append_skipBlanks t
  conv_rhs => rw [ht, deepest_append hb.isUnmarked]

/-! ## Strings -/

theorem deepest_inside_cons {c : CodePoint} (hquote : c.is '"' = false)
    (hescape : c.is '\\' = false) (depth : Nat) (t : Text) :
    deepest .inside depth (c :: t) = deepest .inside depth t := by
  rw [deepest]
  simp only [hquote, hescape, Bool.false_eq_true, if_false]

/-- A hexadecimal digit neither ends a string nor escapes anything. -/
theorem is_false_of_hexValue? {c : CodePoint} {n : Nat} (h : c.hexValue? = some n) :
    c.is '"' = false ∧ c.is '\\' = false := by
  simp only [CodePoint.is_eq_false_iff, show '"'.toNat = 0x22 from rfl,
    show '\\'.toNat = 0x5C from rfl]
  unfold CodePoint.hexValue? at h
  split at h
  · omega
  split at h
  · omega
  split at h
  · omega
  · cases h

theorem EscapesNumber.deepest_append {n : Text} {p : CodePoint} (hn : EscapesNumber n p)
    (depth : Nat) (t : Text) : deepest .inside depth (n ++ t) = deepest .inside depth t := by
  obtain ⟨hp⟩ := hn
  unfold hexPoint? at hp
  obtain ⟨a, ha, hp⟩ := Option.bind_eq_some_iff.mp hp
  obtain ⟨b, hb, hp⟩ := Option.bind_eq_some_iff.mp hp
  obtain ⟨c, hc, hp⟩ := Option.bind_eq_some_iff.mp hp
  obtain ⟨d, hd, -⟩ := Option.bind_eq_some_iff.mp hp
  have hskip {x : CodePoint} {n : Nat} (hx : x.hexValue? = some n) (t : Text) :
      deepest .inside depth (x :: t) = deepest .inside depth t :=
    deepest_inside_cons (is_false_of_hexValue? hx).1 (is_false_of_hexValue? hx).2 depth t
  show deepest .inside depth (_ :: _ :: _ :: _ :: t) = _
  rw [hskip ha, hskip hb, hskip hc, hskip hd]

/-- What stands between the quotes of a string opens and closes nothing. -/
theorem Spells.deepest_append {s x : Text} (h : Spells s x) (depth : Nat) (t : Text) :
    deepest .inside depth (s ++ CodePoint.ofChar '"' :: t) = deepest .outside depth t := by
  induction h with
  | nil => rfl
  | plain hquote hescape _ _ ih =>
    rw [List.cons_append, deepest_inside_cons hquote hescape, ih]
  | escaped _ _ ih => exact ih
  | numbered hn _ _ ih => rw [List.append_assoc, hn.deepest_append, ih]
  | paired hn hm _ _ _ ih =>
    rw [List.append_assoc, List.append_assoc, hn.deepest_append, hm.deepest_append, ih]

theorem Names.deepest_append {n name : Text} (h : Names n name) (depth : Nat) (t : Text) :
    deepest .outside depth (n ++ t) = deepest .outside depth t := by
  obtain ⟨hb, hs, hb'⟩ := h
  simp only [List.append_assoc, List.cons_append]
  rw [Json.deepest_append hb.isUnmarked]
  show deepest .inside depth _ = _
  rw [hs.deepest_append, Json.deepest_append hb'.isUnmarked]

/-! ## Values -/

theorem deepest_colon (depth : Nat) (t : Text) :
    deepest .outside depth (CodePoint.ofChar ':' :: t) = deepest .outside depth t := rfl

theorem deepest_comma (depth : Nat) (t : Text) :
    deepest .outside depth (CodePoint.ofChar ',' :: t) = deepest .outside depth t := rfl

/-- Brackets and braces close what they open around something that closes all that it opens. -/
theorem deepest_enclosed_le {a b : Char} (ha : a = '[' ∨ a = '\x7b') (hb : b = ']' ∨ b = '\x7d')
    {s : Text} (hs : ∀ depth t, deepest .outside depth t ≤ deepest .outside depth (s ++ t))
    (depth : Nat) (t : Text) : deepest .outside depth t
      ≤ deepest .outside depth (CodePoint.ofChar a :: (s ++ [CodePoint.ofChar b]) ++ t) := by
  have h := hs (depth + 1) (CodePoint.ofChar b :: t)
  rw [deepest_close hb] at h
  simp only [List.append_assoc, List.cons_append, List.nil_append]
  rw [deepest_open ha]
  exact (Nat.le_max_right _ _).trans h

theorem IsBlankText.deepest_le {b : Text} (hb : IsBlankText b) (depth : Nat) (t : Text) :
    deepest .outside depth t ≤ deepest .outside depth (b ++ t) :=
  (deepest_append hb.isUnmarked depth t).ge

mutual

/-- What denotes a value closes all that it opens. -/
theorem Denotes.deepest_le {digits : Nat} : {s : Text} → {v : Value} → Denotes digits s v →
    ∀ depth t, deepest .outside depth t ≤ deepest .outside depth (s ++ t)
  | _, _, .null, _, _ => Nat.le_refl _
  | _, _, .true, _, _ => Nat.le_refl _
  | _, _, .false, _, _ => Nat.le_refl _
  | _, _, .nan, _, _ => Nat.le_refl _
  | _, _, .infinity, _, _ => Nat.le_refl _
  | _, _, .minusInfinity, _, _ => Nat.le_refl _
  | _, _, @Denotes.integer _ negative w hw _, depth, t => by
    rw [deepest_append]
    exact List.forall_mem_append.mpr
      ⟨isUnmarked_signText negative, isUnmarked_of_allDigits hw.allDigits⟩
  | _, _, @Denotes.real _ negative w x f e hw hf hx _, depth, t => by
    rw [deepest_append]
    simp only [List.forall_mem_append]
    exact ⟨isUnmarked_signText negative, isUnmarked_of_allDigits hw.allDigits,
      isUnmarked_fractionText hf, hx.isUnmarked⟩
  | _, _, .string hs, depth, t => by
    simp only [List.append_assoc, List.cons_append, List.nil_append]
    exact (hs.deepest_append depth t).ge
  | _, _, .emptyArray hb, depth, t =>
    deepest_enclosed_le (.inl rfl) (.inl rfl) hb.deepest_le depth t
  | _, _, .array hs, depth, t =>
    deepest_enclosed_le (.inl rfl) (.inl rfl) hs.deepest_le depth t
  | _, _, .emptyObject hb, depth, t =>
    deepest_enclosed_le (.inr rfl) (.inr rfl) hb.deepest_le depth t
  | _, _, .object hs, depth, t =>
    deepest_enclosed_le (.inr rfl) (.inr rfl) hs.deepest_le depth t

theorem Document.deepest_le {digits : Nat} : {s : Text} → {v : Value} → Document digits s v →
    ∀ depth t, deepest .outside depth t ≤ deepest .outside depth (s ++ t)
  | _, _, @Document.intro _ _ _ b' _ hb hs hb', depth, t => by
    have h := hs.deepest_le depth (b' ++ t)
    rw [deepest_append hb'.isUnmarked] at h
    rwa [List.append_assoc, List.append_assoc, deepest_append hb.isUnmarked]

theorem Items.deepest_le {digits : Nat} : {s : Text} → {vs : List Value} → Items digits s vs →
    ∀ depth t, deepest .outside depth t ≤ deepest .outside depth (s ++ t)
  | _, _, .one hs, depth, t => hs.deepest_le depth t
  | _, _, .more hs ht, depth, t => by
    simp only [List.append_assoc, List.cons_append]
    refine (ht.deepest_le depth t).trans ?_
    rw [← deepest_comma]
    exact hs.deepest_le depth _

theorem Members.deepest_le {digits : Nat} : {s : Text} → {es : List (Text × Value)} →
    Members digits s es → ∀ depth t, deepest .outside depth t ≤ deepest .outside depth (s ++ t)
  | _, _, .one hn hs, depth, t => by
    simp only [List.append_assoc, List.cons_append]
    rw [hn.deepest_append, deepest_colon]
    exact hs.deepest_le depth t
  | _, _, .more hn hs ht, depth, t => by
    simp only [List.append_assoc, List.cons_append]
    rw [hn.deepest_append, deepest_colon]
    refine (ht.deepest_le depth t).trans ?_
    rw [← deepest_comma]
    exact hs.deepest_le depth _

end

/-! ## Reading too deeply -/

/-- The reader stops at the limit of levels only in a text that is nested more than `levels` levels
deep. -/
def StopsBeyond (levels : Nat) (value : Text → Step Value) : Prop :=
  ∀ {t : Text} (depth : Nat), value t = .error .nesting → depth + levels < deepest .outside depth t

section

variable {value : Text → Step Value} {levels : Nat}

theorem readItems_stopsBeyond (hsound : Sound value) (hvalue : StopsBeyond levels value)
    {count : Nat} {t : Text} (depth : Nat) (h : readItems value count t = .error .nesting) :
    depth + levels < deepest .outside depth t := by
  induction count generalizing t with
  | zero => cases h
  | succ count ih =>
    rcases readItems_succ_eq_nesting.mp h with hread | ⟨v, left, rest, hread, hcomma, hitems⟩
    · exact hvalue depth hread
    · obtain ⟨s, rfl, hs⟩ := hsound hread
      refine Nat.lt_of_lt_of_le ?_ (hs.deepest_le depth left)
      rw [← deepest_skipBlanks, hcomma, deepest_comma, ← deepest_skipBlanks]
      exact ih hitems

theorem readMembers_stopsBeyond (hsound : Sound value) (hvalue : StopsBeyond levels value)
    {count : Nat} {t : Text} (depth : Nat) (h : readMembers value count t = .error .nesting) :
    depth + levels < deepest .outside depth t := by
  induction count generalizing t with
  | zero => cases h
  | succ count ih =>
    obtain ⟨name, s, hname, hnext⟩ := readMembers_succ_eq_nesting.mp h
    obtain ⟨n, b, rfl, hn, hb⟩ := readName_sound hname
    rw [hn.deepest_append, deepest_colon, deepest_append hb.isUnmarked]
    rcases hnext with hread | ⟨v, left, rest, hread, hcomma, hmembers⟩
    · exact hvalue depth hread
    · obtain ⟨s, rfl, hs⟩ := hsound hread
      refine Nat.lt_of_lt_of_le ?_ (hs.deepest_le depth left)
      rw [← deepest_skipBlanks, hcomma, deepest_comma, ← deepest_skipBlanks]
      exact ih hmembers

theorem readArray_stopsBeyond (hsound : Sound value) (hvalue : StopsBeyond levels value)
    {t : Text} (depth : Nat) (h : readArray value t = .error .nesting) :
    depth + levels < deepest .outside depth t := by
  rcases begins_or_not ']' (skipBlanks t) with ⟨rest, hclose⟩ | hopen
  · rw [readArray_closed hclose] at h
    cases h
  · rw [readArray_eq_readItems hopen, map_eq_error] at h
    rw [← deepest_skipBlanks]
    exact readItems_stopsBeyond hsound hvalue depth h

theorem readObject_stopsBeyond (hsound : Sound value) (hvalue : StopsBeyond levels value)
    {t : Text} (depth : Nat) (h : readObject value t = .error .nesting) :
    depth + levels < deepest .outside depth t := by
  rcases begins_or_not '\x7d' (skipBlanks t) with ⟨rest, hclose⟩ | hopen
  · rw [readObject_closed hclose] at h
    cases h
  · rw [readObject_eq_readMembers hopen, map_eq_error] at h
    rw [← deepest_skipBlanks]
    exact readMembers_stopsBeyond hsound hvalue depth h

end

/-- Reading with a limit of levels stops at it only in a text that is nested more deeply: what a
container holds is read one level deeper than the container. -/
theorem readValue_stopsBeyond (levels : Nat) : StopsBeyond levels (readValue levels) := by
  intro t depth h
  cases Beginning.of t with
  | nothing =>
    rw [readValue_nil] at h
    cases h
  | string t =>
    rw [readValue_quote, map_eq_error] at h
    exact absurd h (readString_ne_nesting _ _)
  | object t =>
    rw [deepest_open (.inr rfl)]
    cases levels with
    | zero => exact le_deepest .outside (depth + 1) t
    | succ levels =>
      have := readObject_stopsBeyond (readValue_sound levels) (readValue_stopsBeyond levels)
        (depth + 1) h
      omega
  | array t =>
    rw [deepest_open (.inl rfl)]
    cases levels with
    | zero => exact le_deepest .outside (depth + 1) t
    | succ levels =>
      have := readArray_stopsBeyond (readValue_sound levels) (readValue_stopsBeyond levels)
        (depth + 1) h
      omega
  | atom t hquote hbrace hbracket =>
    rw [readValue_plain levels t hquote hbrace hbracket] at h
    exact absurd h (readAtom_ne_nesting _)

end Registry.Json
