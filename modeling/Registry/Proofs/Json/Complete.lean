import Registry.Proofs.Json.Depth

/-!
# The reader takes every document

What denotes a value is read as that value, whatever follows it that cannot go on with a number,
unless reading stops at the limit of levels (`Denotes.taken`). So the texts that are read are the
documents, as far as they are not nested too deeply (`readAll_eq_ok_iff`). The induction is on the
derivation; the count of the readers of items and members is bounded by what is left of the text.
-/

namespace Registry.Json

/-- The reader gives a value and what follows it, or stops at the limit of levels. -/
def Takes {α : Type} (x : Step α) (a : α) (left : Text) : Prop :=
  x = .ok (a, left) ∨ x = .error .nesting

/-! ## What follows a value -/

theorem EndsNumber.blank_append {b r : Text} (hb : IsBlankText b) (hr : EndsNumber r) :
    EndsNumber (b ++ r) := by
  cases b with
  | nil => exact hr
  | cons c b =>
    rintro d ⟨⟩
    have h := hb c List.mem_cons_self
    simp only [isBlank, Bool.or_eq_true, beq_iff_eq] at h
    simp only [CodePoint.isDigit, Bool.and_eq_false_iff, decide_eq_false_iff_not,
      CodePoint.is_eq_false_iff, show '.'.toNat = 0x2E from rfl, show 'e'.toNat = 0x65 from rfl,
      show 'E'.toNat = 0x45 from rfl]
    omega

theorem length_skipBlanks_le (t : Text) : (skipBlanks t).length ≤ t.length :=
  (List.dropWhile_sublist _).length_le

theorem skipBlanks_mark {c : Char} {r : Text}
    (h : c = ',' ∨ c = ']' ∨ c = '\x7d' ∨ c = ':' ∨ c = '"') :
    skipBlanks (CodePoint.ofChar c :: r) = CodePoint.ofChar c :: r := by
  rcases h with rfl | rfl | rfl | rfl | rfl <;> rfl

/-! ## Atoms and strings -/

theorem readAtom_integer {negative : Bool} {w r : Text} (hw : IsWhole w)
    (hdigits : w.length ≤ integerDigitLimit) (hr : EndsNumber r) :
    readAtom (Binary64.signText negative ++ w ++ r)
      = .ok (.int (if negative then -(Text.digitsValue w : Int) else Text.digitsValue w), r) := by
  have h := readAtom_parts negative (f := none) hw (fun _ h => nomatch h) .absent hr
  rw [List.append_assoc]
  refine h.trans ?_
  rw [Number.value]
  simp only [Nat.not_lt.mpr hdigits, if_false]
  rfl

theorem readAtom_real {negative : Bool} {w x r : Text} {f : Option Text} {e : Option Int}
    (hw : IsWhole w) (hf : ∀ t ∈ f, t ≠ [] ∧ Text.AllDigits t) (hx : IsExponent x e)
    (hreal : f ≠ none ∨ e ≠ none) (hr : EndsNumber r) :
    readAtom (Binary64.signText negative ++ (w ++ (fractionText f ++ x)) ++ r)
      = .ok (.float (Binary64.ofDecimal negative (Text.digitsValue (w ++ f.getD []))
          (e.getD 0 - (f.getD []).length)), r) := by
  simp only [List.append_assoc]
  rw [readAtom_parts negative hw hf hx hr]
  cases f with
  | some f => rfl
  | none =>
    cases e with
    | some e => rfl
    | none => simp at hreal

theorem readValue_taken_atom {s r : Text} {v : Value} (hs : BeginsAtom s)
    (h : readAtom (s ++ r) = .ok (v, r)) (depth : Nat) : Takes (readValue depth (s ++ r)) v r := by
  rw [readValue_atom (hs.append r), h]
  exact .inl rfl

theorem readValue_string {s x : Text} (hs : Spells s x) (depth : Nat) (r : Text) :
    readValue depth (CodePoint.ofChar '"' :: (s ++ CodePoint.ofChar '"' :: r))
      = .ok (.text x, r) := by
  rw [readValue_quote, readString_eq_ok_iff.mpr ⟨s, rfl, hs⟩]
  rfl

theorem readName_names {n name : Text} (h : Names n name) (r : Text) :
    readName (skipBlanks (n ++ CodePoint.ofChar ':' :: r)) = .ok (name, skipBlanks r) := by
  obtain @⟨b, s, b', _, hb, hs, hb'⟩ := h
  refine readName_eq_ok.mpr ⟨_, b' ++ CodePoint.ofChar ':' :: r, r, ?_,
    readString_eq_ok_iff.mpr ⟨s, rfl, hs⟩, ?_, rfl⟩
  · simp only [List.append_assoc, List.cons_append]
    rw [skipBlanks_append hb, skipBlanks_mark (by simp)]
  · rw [skipBlanks_append hb', skipBlanks_mark (by simp)]

/-- A name takes something of the text. -/
theorem length_skipBlanks_names {n name : Text} (h : Names n name) (r : Text) :
    r.length < (skipBlanks (n ++ CodePoint.ofChar ':' :: r)).length := by
  obtain ⟨hb, -, -⟩ := h
  rw [List.append_assoc, skipBlanks_append hb, List.cons_append, skipBlanks_mark (by simp)]
  simp only [List.length_cons, List.length_append]
  omega

/-! ## Containers -/

section

variable {value : Text → Step Value} {v : Value}

theorem readItems_taken_last {count : Nat} {t left r : Text} (h : Takes (value t) v left)
    (hleft : skipBlanks left = CodePoint.ofChar ']' :: r) :
    Takes (readItems value (count + 1) t) [v] r := by
  rcases h with h | h
  · exact .inl (readItems_succ_eq_ok.mpr ⟨v, left, h, .inl ⟨hleft, rfl⟩⟩)
  · exact .inr (readItems_succ_eq_nesting.mpr (.inl h))

theorem readItems_taken_comma {count : Nat} {t left u r : Text} {vs : List Value}
    (h : Takes (value t) v left) (hleft : skipBlanks left = CodePoint.ofChar ',' :: u)
    (hrest : Takes (readItems value count (skipBlanks u)) vs r) :
    Takes (readItems value (count + 1) t) (v :: vs) r := by
  rcases h with h | h
  · rcases hrest with hrest | hrest
    · exact .inl (readItems_succ_eq_ok.mpr ⟨v, left, h, .inr ⟨u, vs, hleft, hrest, rfl⟩⟩)
    · exact .inr (readItems_succ_eq_nesting.mpr (.inr ⟨v, left, u, h, hleft, hrest⟩))
  · exact .inr (readItems_succ_eq_nesting.mpr (.inl h))

theorem readMembers_taken_last {count : Nat} {t s left r name : Text}
    (hname : readName t = .ok (name, s)) (h : Takes (value s) v left)
    (hleft : skipBlanks left = CodePoint.ofChar '\x7d' :: r) :
    Takes (readMembers value (count + 1) t) [(.text name, v)] r := by
  rcases h with h | h
  · exact .inl (readMembers_succ_eq_ok.mpr ⟨name, s, v, left, hname, h, .inl ⟨hleft, rfl⟩⟩)
  · exact .inr (readMembers_succ_eq_nesting.mpr ⟨name, s, hname, .inl h⟩)

theorem readMembers_taken_comma {count : Nat} {t s left u r name : Text}
    {ms : List (Value × Value)} (hname : readName t = .ok (name, s)) (h : Takes (value s) v left)
    (hleft : skipBlanks left = CodePoint.ofChar ',' :: u)
    (hrest : Takes (readMembers value count (skipBlanks u)) ms r) :
    Takes (readMembers value (count + 1) t) ((.text name, v) :: ms) r := by
  rcases h with h | h
  · rcases hrest with hrest | hrest
    · exact .inl (readMembers_succ_eq_ok.mpr
        ⟨name, s, v, left, hname, h, .inr ⟨u, ms, hleft, hrest, rfl⟩⟩)
    · exact .inr (readMembers_succ_eq_nesting.mpr
        ⟨name, s, hname, .inr ⟨v, left, u, h, hleft, hrest⟩⟩)
  · exact .inr (readMembers_succ_eq_nesting.mpr ⟨name, s, hname, .inl h⟩)

end

theorem Takes.map {α β : Type} {x : Step α} {a : α} {left : Text} (h : Takes x a left)
    (f : α → β) : Takes (x.map fun p => (f p.1, p.2)) (f a) left := by
  rcases h with rfl | rfl
  · exact .inl rfl
  · exact .inr rfl

/-- What stands between brackets is taken for an array, if its items are taken. -/
theorem readValue_taken_array {depth : Nat} {t r : Text} {vs : List Value}
    (hbegin : ∃ c u, skipBlanks t = c :: u ∧ c.is ']' = false)
    (h : ∀ inner, depth = inner + 1 → Takes
      (readItems (readValue inner) (skipBlanks t).length (skipBlanks t)) vs r) :
    Takes (readValue depth (CodePoint.ofChar '[' :: t)) (.list vs) r := by
  cases depth with
  | zero => exact .inr rfl
  | succ depth =>
    obtain ⟨c, u, ht, hc⟩ := hbegin
    rw [readValue_bracket, readArray_eq_readItems (not_begins ht hc)]
    exact (h depth rfl).map Value.list

/-- What stands between braces is taken for an object, if its members are taken. -/
theorem readValue_taken_object {depth : Nat} {t r : Text} {es : List (Text × Value)}
    (hbegin : ∃ u, skipBlanks t = CodePoint.ofChar '"' :: u)
    (h : ∀ inner, depth = inner + 1 → Takes
      (readMembers (readValue inner) (skipBlanks t).length (skipBlanks t)) (namedEntries es) r) :
    Takes (readValue depth (CodePoint.ofChar '\x7b' :: t))
      (.dict (namedEntries (lastOfEach es))) r := by
  cases depth with
  | zero => exact .inr rfl
  | succ depth =>
    obtain ⟨u, ht⟩ := hbegin
    rw [readValue_brace, readObject_eq_readMembers (not_begins ht rfl), ← dictOf_named]
    exact (h depth rfl).map Value.dictOf

/-- The first item of an array begins behind the white space. -/
theorem Items.begins {digits : Nat} {s : Text} {vs : List Value} (h : Items digits s vs)
    (r : Text) : ∃ c u, skipBlanks (s ++ r) = c :: u ∧ c.is ']' = false := by
  have hdocument {s : Text} {v : Value} (h : Document digits s v) (r : Text) :
      ∃ c u, skipBlanks (s ++ r) = c :: u ∧ c.is ']' = false := by
    obtain @⟨b, s, b', _, hb, hs, -⟩ := h
    obtain ⟨c, u, hu, -, hc⟩ := hs.beginsValue.append (b' ++ r)
    have hskip := (hs.beginsValue.append (b' ++ r)).skipBlanks
    rw [List.append_assoc, List.append_assoc, skipBlanks_append hb, hskip]
    exact ⟨c, u, hu, hc⟩
  cases h with
  | one hs => exact hdocument hs r
  | more hs =>
    rw [List.append_assoc]
    exact hdocument hs _

/-- The first member of an object begins with a quote behind the white space. -/
theorem Members.begins {digits : Nat} {s : Text} {es : List (Text × Value)}
    (h : Members digits s es) (r : Text) :
    ∃ u, skipBlanks (s ++ r) = CodePoint.ofChar '"' :: u := by
  have hname {n name : Text} (h : Names n name) (r : Text) :
      ∃ u, skipBlanks (n ++ r) = CodePoint.ofChar '"' :: u := by
    obtain ⟨hb, -, -⟩ := h
    rw [List.append_assoc, skipBlanks_append hb]
    exact ⟨_, rfl⟩
  cases h with
  | one hn =>
    rw [List.append_assoc]
    exact hname hn _
  | more hn =>
    rw [List.append_assoc]
    exact hname hn _

/-! ## Values -/

mutual

/-- What denotes a value is taken for it. -/
theorem Denotes.taken : {s : Text} → {v : Value} → Denotes integerDigitLimit s v →
    ∀ depth {r}, EndsNumber r → Takes (readValue depth (s ++ r)) v r
  | _, _, .null, depth, _, _ => readValue_taken_atom ⟨_, _, rfl, rfl⟩ rfl depth
  | _, _, .true, depth, _, _ => readValue_taken_atom ⟨_, _, rfl, rfl⟩ rfl depth
  | _, _, .false, depth, _, _ => readValue_taken_atom ⟨_, _, rfl, rfl⟩ rfl depth
  | _, _, .nan, depth, _, _ => readValue_taken_atom ⟨_, _, rfl, rfl⟩ rfl depth
  | _, _, .infinity, depth, _, _ => readValue_taken_atom ⟨_, _, rfl, rfl⟩ rfl depth
  | _, _, .minusInfinity, depth, _, _ => readValue_taken_atom ⟨_, _, rfl, rfl⟩ rfl depth
  | _, _, .integer hw hdigits, depth, _, hr =>
    readValue_taken_atom (beginsAtom_whole hw) (readAtom_integer hw hdigits hr) depth
  | _, _, .real hw hf hx hreal, depth, _, hr =>
    readValue_taken_atom (beginsAtom_signed hw) (readAtom_real hw hf hx hreal hr) depth
  | _, _, .string hs, depth, r, _ => by
    simp only [List.append_assoc, List.cons_append, List.nil_append]
    exact .inl (readValue_string hs depth r)
  | _, _, .emptyArray hb, depth, r, _ => by
    simp only [List.append_assoc, List.cons_append, List.nil_append]
    cases depth with
    | zero => exact .inr rfl
    | succ depth =>
      rw [readValue_bracket, readArray_closed (by rw [skipBlanks_append hb]; rfl)]
      exact .inl rfl
  | _, _, .array hs, depth, r, _ => by
    simp only [List.append_assoc, List.cons_append, List.nil_append]
    exact readValue_taken_array (hs.begins _) fun inner _ => hs.taken inner _ (Nat.le_refl _)
  | _, _, .emptyObject hb, depth, r, _ => by
    simp only [List.append_assoc, List.cons_append, List.nil_append]
    cases depth with
    | zero => exact .inr rfl
    | succ depth =>
      rw [readValue_brace, readObject_closed (by rw [skipBlanks_append hb]; rfl)]
      exact .inl rfl
  | _, _, .object hs, depth, r, _ => by
    simp only [List.append_assoc, List.cons_append, List.nil_append]
    exact readValue_taken_object (hs.begins _) fun inner _ => hs.taken inner _ (Nat.le_refl _)

/-- A document is taken for its value up to white space, and something of the text with it. -/
theorem Document.taken : {s : Text} → {v : Value} → Document integerDigitLimit s v →
    ∀ depth {r}, EndsNumber r → ∃ left, Takes (readValue depth (skipBlanks (s ++ r))) v left
      ∧ skipBlanks left = skipBlanks r ∧ r.length < (skipBlanks (s ++ r)).length
  | _, _, @Document.intro _ b s b' _ hb hs hb', depth, r, hr => by
    have hbegins := hs.beginsValue
    have hskip : skipBlanks (b ++ (s ++ b') ++ r) = s ++ (b' ++ r) := by
      rw [List.append_assoc, List.append_assoc, skipBlanks_append hb,
        (hbegins.append (b' ++ r)).skipBlanks]
    refine ⟨b' ++ r, ?_, skipBlanks_append hb' r, ?_⟩
    · rw [hskip]
      exact hs.taken depth (hr.blank_append hb')
    · have hpos := hbegins.length_pos
      rw [hskip, List.length_append, List.length_append]
      omega

/-- The items of an array are taken, if the count is not exceeded by what is left of the text. -/
theorem Items.taken : {s : Text} → {vs : List Value} → Items integerDigitLimit s vs →
    ∀ depth count {r}, (skipBlanks (s ++ CodePoint.ofChar ']' :: r)).length ≤ count →
      Takes (readItems (readValue depth) count (skipBlanks (s ++ CodePoint.ofChar ']' :: r))) vs r
  | _, _, .one hs, depth, count, r, hcount => by
    obtain ⟨left, htaken, hleft, hlength⟩ := hs.taken depth (r := CodePoint.ofChar ']' :: r)
      (endsNumber_mark (.inr (.inl rfl)))
    obtain ⟨n, rfl⟩ : ∃ n, count = n + 1 := ⟨count - 1, by omega⟩
    rw [skipBlanks_mark (by simp)] at hleft
    exact readItems_taken_last htaken hleft
  | _, _, @Items.more _ s t _ _ hs ht, depth, count, r, hcount => by
    rw [List.append_assoc, List.cons_append] at hcount ⊢
    obtain ⟨left, htaken, hleft, hlength⟩ := hs.taken depth
      (r := CodePoint.ofChar ',' :: (t ++ CodePoint.ofChar ']' :: r)) (endsNumber_mark (.inl rfl))
    obtain ⟨n, rfl⟩ : ∃ n, count = n + 1 := ⟨count - 1, by omega⟩
    rw [skipBlanks_mark (by simp)] at hleft
    refine readItems_taken_comma htaken hleft (ht.taken depth n ?_)
    have hle := length_skipBlanks_le (t ++ CodePoint.ofChar ']' :: r)
    rw [List.length_cons] at hlength
    omega

/-- The members of an object are taken, if the count is not exceeded by what is left of the text. -/
theorem Members.taken : {s : Text} → {es : List (Text × Value)} → Members integerDigitLimit s es →
    ∀ depth count {r}, (skipBlanks (s ++ CodePoint.ofChar '\x7d' :: r)).length ≤ count →
      Takes (readMembers (readValue depth) count (skipBlanks (s ++ CodePoint.ofChar '\x7d' :: r)))
        (namedEntries es) r
  | _, _, @Members.one _ n s name v hn hs, depth, count, r, hcount => by
    rw [List.append_assoc, List.cons_append] at hcount ⊢
    obtain ⟨left, htaken, hleft, hlength⟩ := hs.taken depth
      (r := CodePoint.ofChar '\x7d' :: r) (endsNumber_mark (.inr (.inr rfl)))
    obtain ⟨m, rfl⟩ : ∃ m, count = m + 1 := ⟨count - 1, by
      have := length_skipBlanks_names hn (s ++ CodePoint.ofChar '\x7d' :: r)
      omega⟩
    rw [skipBlanks_mark (by simp)] at hleft
    exact readMembers_taken_last (readName_names hn _) htaken hleft
  | _, _, @Members.more _ n s t name v es hn hs ht, depth, count, r, hcount => by
    simp only [List.append_assoc, List.cons_append] at hcount ⊢
    obtain ⟨left, htaken, hleft, hlength⟩ := hs.taken depth
      (r := CodePoint.ofChar ',' :: (t ++ CodePoint.ofChar '\x7d' :: r))
      (endsNumber_mark (.inl rfl))
    have hname := length_skipBlanks_names hn
      (s ++ CodePoint.ofChar ',' :: (t ++ CodePoint.ofChar '\x7d' :: r))
    obtain ⟨m, rfl⟩ : ∃ m, count = m + 1 := ⟨count - 1, by omega⟩
    rw [skipBlanks_mark (by simp)] at hleft
    refine readMembers_taken_comma (readName_names hn _) htaken hleft (ht.taken depth m ?_)
    have hle := length_skipBlanks_le (t ++ CodePoint.ofChar '\x7d' :: r)
    have hle' := length_skipBlanks_le
      (s ++ CodePoint.ofChar ',' :: (t ++ CodePoint.ofChar '\x7d' :: r))
    rw [List.length_cons] at hlength
    omega

end

/-! ## Texts -/

/-- What is read as a whole is a document. -/
theorem readAll_sound {t : Text} {v : Value} (h : readAll t = .ok v) :
    Document integerDigitLimit t v := by
  obtain ⟨b, hb, ht⟩ := exists_append_skipBlanks t
  obtain ⟨left, hread, hleft⟩ := readAll_eq_ok.mp h
  obtain ⟨s, hs, hdenotes⟩ := readValue_sound nestingLimit hread
  rw [ht, hs]
  exact .intro hb hdenotes (skipBlanks_eq_nil_iff.mp hleft)

/-- Reading stops at the limit of levels only in a text that is nested more deeply. -/
theorem readAll_ne_nesting {t : Text} (h : nesting t ≤ nestingLimit) :
    readAll t ≠ .error .nesting := by
  intro hread
  have hlt := readValue_stopsBeyond nestingLimit 0 (readAll_eq_nesting.mp hread)
  rw [deepest_skipBlanks] at hlt
  rw [nesting] at h
  omega

/-- A text that is not nested too deeply is read exactly as what it denotes. -/
theorem readAll_eq_ok_iff {t : Text} {v : Value} (h : nesting t ≤ nestingLimit) :
    readAll t = .ok v ↔ Document integerDigitLimit t v := by
  refine ⟨readAll_sound, fun ht => ?_⟩
  have hne := readAll_ne_nesting h
  obtain ⟨left, htaken, hleft, -⟩ := ht.taken nestingLimit (r := []) (fun _ hc => nomatch hc)
  rw [List.append_nil] at htaken
  rcases htaken with hread | hread
  · exact readAll_eq_ok.mpr ⟨left, hread, hleft⟩
  · exact absurd (readAll_eq_nesting.mpr hread) hne

end Registry.Json
