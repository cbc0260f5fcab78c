import Registry.Proofs.Json.Spelling

/-!
# The reader takes documents only

Whatever `readValue` takes denotes the value that it gives (`readValue_sound`). The readers of items
and members take the reader of a value as an argument, so each of them is shown sound for any sound
reader, and the induction on the levels only puts them together.
-/

namespace Registry.Json

/-! ## Atoms -/

theorem denotes_of_mem_literals {digits : Nat} {w : Text} {v : Value} (h : (w, v) ∈ literals) :
    Denotes digits w v := by
  simp only [literals, List.mem_cons, List.not_mem_nil, or_false, Prod.mk.injEq] at h
  obtain ⟨rfl, rfl⟩ | ⟨rfl, rfl⟩ | ⟨rfl, rfl⟩ | ⟨rfl, rfl⟩ | ⟨rfl, rfl⟩ | ⟨rfl, rfl⟩ := h
  · exact .null
  · exact .true
  · exact .false
  · exact .nan
  · exact .infinity
  · exact .minusInfinity

/-- A number that has a value denotes it. -/
theorem Number.value_sound {n : Number} {x : Text} {v : Value} (hw : IsWhole n.whole)
    (hf : ∀ f ∈ n.fraction, f ≠ [] ∧ Text.AllDigits f) (hx : IsExponent x n.exponent)
    (h : n.value = .ok v) :
    Denotes integerDigitLimit
      (Binary64.signText n.negative ++ (n.whole ++ (fractionText n.fraction ++ x))) v := by
  obtain ⟨negative, w, f, e⟩ := n
  simp only at hw hf hx ⊢
  by_cases hreal : f ≠ none ∨ e ≠ none
  · have hv : v = .float (Binary64.ofDecimal negative (Text.digitsValue (w ++ f.getD []))
        (e.getD 0 - (f.getD []).length)) := by
      cases f with
      | some f =>
        cases h
        rfl
      | none =>
        cases e with
        | some e =>
          cases h
          rfl
        | none => simp at hreal
    rw [hv]
    exact .real hw hf hx hreal
  · obtain ⟨rfl, rfl⟩ : f = none ∧ e = none := by simpa using hreal
    cases hx
    rw [Number.value] at h
    simp only at h
    split at h
    · cases h
    · next hlen =>
      cases h
      simp only [fractionText, List.append_nil]
      exact .integer hw (Nat.le_of_not_lt hlen)

theorem readAtom_sound {t r : Text} {v : Value} (h : readAtom t = .ok (v, r)) :
    ∃ s, t = s ++ r ∧ Denotes integerDigitLimit s v := by
  rcases readAtom_eq_ok h with hliteral | ⟨n, hnumber, hvalue⟩
  · obtain ⟨w, hw, rfl⟩ := takeLiteral?_eq_some hliteral
    exact ⟨w, rfl, denotes_of_mem_literals hw⟩
  · obtain ⟨x, rfl, hw, hf, hx⟩ := takeNumber?_eq_some hnumber
    exact ⟨_, by simp only [List.append_assoc], Number.value_sound hw hf hx hvalue⟩

/-! ## Containers -/

/-- The reader takes only what denotes the value that it gives. -/
def Sound (value : Text → Step Value) : Prop :=
  ∀ {t r : Text} {v : Value}, value t = .ok (v, r) →
    ∃ s, t = s ++ r ∧ Denotes integerDigitLimit s v

/-- What a value is followed by, up to a mark, is a document. -/
theorem Denotes.document {digits : Nat} {s left : Text} {v : Value} {c : CodePoint} {r : Text}
    (h : Denotes digits s v) (hleft : skipBlanks left = c :: r) :
    ∃ u, s ++ left = u ++ c :: r ∧ Document digits u v := by
  obtain ⟨b, hb, hskip⟩ := exists_append_skipBlanks left
  rw [hleft] at hskip
  refine ⟨s ++ b, ?_, .intro .nil h hb⟩
  rw [hskip, List.append_assoc]

section

variable {value : Text → Step Value}

theorem readItems_sound (hvalue : Sound value) {count : Nat} {t r : Text} {vs : List Value}
    (h : readItems value count t = .ok (vs, r)) :
    ∃ s, t = s ++ CodePoint.ofChar ']' :: r ∧ Items integerDigitLimit s vs := by
  induction count generalizing t vs with
  | zero => cases h
  | succ count ih =>
    obtain ⟨v, left, hread, hnext⟩ := readItems_succ_eq_ok.mp h
    obtain ⟨s, rfl, hs⟩ := hvalue hread
    rcases hnext with ⟨hclose, rfl⟩ | ⟨rest, ws, hcomma, hitems, rfl⟩
    · obtain ⟨u, hu, hdocument⟩ := hs.document hclose
      exact ⟨u, hu, .one hdocument⟩
    · obtain ⟨u, hu, hdocument⟩ := hs.document hcomma
      obtain ⟨b, hb, hrest⟩ := exists_append_skipBlanks rest
      obtain ⟨s', hs', hitems'⟩ := ih hitems
      refine ⟨_, ?_, .more hdocument (hitems'.blank_append hb)⟩
      rw [hu, hrest, hs']
      simp only [List.append_assoc, List.cons_append]

theorem readName_sound {t r name : Text} (h : readName t = .ok (name, r)) :
    ∃ n b, t = n ++ CodePoint.ofChar ':' :: (b ++ r) ∧ Names n name ∧ IsBlankText b := by
  obtain ⟨u, left, rest, rfl, hread, hcolon, rfl⟩ := readName_eq_ok.mp h
  obtain ⟨s, rfl, hs⟩ := readString_eq_ok_iff.mp hread
  obtain ⟨b, hb, hleft⟩ := exists_append_skipBlanks left
  obtain ⟨b', hb', hrest⟩ := exists_append_skipBlanks rest
  rw [hcolon] at hleft
  refine ⟨_, b', ?_, .intro .nil hs hb, hb'⟩
  rw [← hrest]
  simp only [List.append_assoc, List.cons_append, List.nil_append, ← hleft]

theorem readMembers_sound (hvalue : Sound value) {count : Nat} {t r : Text}
    {ms : List (Value × Value)} (h : readMembers value count t = .ok (ms, r)) :
    ∃ s es, t = s ++ CodePoint.ofChar '\x7d' :: r ∧ Members integerDigitLimit s es
      ∧ ms = namedEntries es := by
  induction count generalizing t ms with
  | zero => cases h
  | succ count ih =>
    obtain ⟨name, s, v, left, hname, hread, hnext⟩ := readMembers_succ_eq_ok.mp h
    obtain ⟨n, b, rfl, hn, hb⟩ := readName_sound hname
    obtain ⟨s, rfl, hs⟩ := hvalue hread
    rcases hnext with ⟨hclose, rfl⟩ | ⟨rest, ns, hcomma, hmembers, rfl⟩
    · obtain ⟨u, hu, hdocument⟩ := hs.document hclose
      refine ⟨_, [(name, v)], ?_, .one hn (hdocument.blank_append hb), rfl⟩
      simp only [hu, List.append_assoc, List.cons_append]
    · obtain ⟨u, hu, hdocument⟩ := hs.document hcomma
      obtain ⟨b', hb', hrest⟩ := exists_append_skipBlanks rest
      obtain ⟨s', es, hs', hes, rfl⟩ := ih hmembers
      refine ⟨_, (name, v) :: es, ?_,
        .more hn (hdocument.blank_append hb) (hes.blank_append hb'), rfl⟩
      rw [hu, hrest, hs']
      simp only [List.append_assoc, List.cons_append]

theorem readArray_sound (hvalue : Sound value) {t r : Text} {v : Value}
    (h : readArray value t = .ok (v, r)) :
    ∃ s, CodePoint.ofChar '[' :: t = s ++ r ∧ Denotes integerDigitLimit s v := by
  obtain ⟨b, hb, ht⟩ := exists_append_skipBlanks t
  rcases begins_or_not ']' (skipBlanks t) with ⟨rest, hclose⟩ | hopen
  · rw [readArray_closed hclose] at h
    cases h
    rw [hclose] at ht
    refine ⟨_, ?_, .emptyArray hb⟩
    simp only [ht, List.append_assoc, List.cons_append, List.nil_append]
  · rw [readArray_eq_readItems hopen, map_eq_ok] at h
    obtain ⟨⟨vs, left⟩, hitems, heq⟩ := h
    cases heq
    obtain ⟨s, hs, hvs⟩ := readItems_sound hvalue hitems
    rw [hs] at ht
    refine ⟨_, ?_, .array (hvs.blank_append hb)⟩
    simp only [ht, List.append_assoc, List.cons_append, List.nil_append]

theorem readObject_sound (hvalue : Sound value) {t r : Text} {v : Value}
    (h : readObject value t = .ok (v, r)) :
    ∃ s, CodePoint.ofChar '\x7b' :: t = s ++ r ∧ Denotes integerDigitLimit s v := by
  obtain ⟨b, hb, ht⟩ := exists_append_skipBlanks t
  rcases begins_or_not '\x7d' (skipBlanks t) with ⟨rest, hclose⟩ | hopen
  · rw [readObject_closed hclose] at h
    cases h
    rw [hclose] at ht
    refine ⟨_, ?_, .emptyObject hb⟩
    simp only [ht, List.append_assoc, List.cons_append, List.nil_append]
  · rw [readObject_eq_readMembers hopen, map_eq_ok] at h
    obtain ⟨⟨ms, left⟩, hmembers, heq⟩ := h
    cases heq
    obtain ⟨s, es, hs, hes, rfl⟩ := readMembers_sound hvalue hmembers
    rw [hs] at ht
    rw [dictOf_named]
    refine ⟨_, ?_, .object (hes.blank_append hb)⟩
    simp only [ht, List.append_assoc, List.cons_append, List.nil_append]

end

/-! ## Values -/

/-- What is read denotes the value that it is read as. -/
theorem readValue_sound (depth : Nat) : Sound (readValue depth) := by
  intro t r v h
  cases Beginning.of t with
  | nothing =>
    rw [readValue_nil] at h
    cases h
  | string t =>
    rw [readValue_quote, map_eq_ok] at h
    obtain ⟨⟨x, left⟩, hread, heq⟩ := h
    cases heq
    obtain ⟨s, rfl, hs⟩ := readString_eq_ok_iff.mp hread
    refine ⟨_, ?_, .string hs⟩
    simp only [List.append_assoc, List.cons_append, List.nil_append]
  | object t =>
    cases depth with
    | zero => cases h
    | succ depth => exact readObject_sound (readValue_sound depth) h
  | array t =>
    cases depth with
    | zero => cases h
    | succ depth => exact readArray_sound (readValue_sound depth) h
  | atom t hquote hbrace hbracket =>
    rw [readValue_plain depth t hquote hbrace hbracket] at h
    exact readAtom_sound h

end Registry.Json
