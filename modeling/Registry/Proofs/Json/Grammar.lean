import Registry.Proofs.Json.RoundTrip

/-!
# The grammar of documents

Which texts are documents and what they denote, told without the reader: a document is a value with
white space around it, and a value is a literal, a number, a string, an array or an object. Beyond
the common grammar there are the literals for what is no finite number, and a string may hold any
code point from the space up. Two surrogates that are escaped one after the other are one code
point, and of the members of an object with one name the last value is kept, at the place of the
first.
-/

namespace Registry.Json

/-- White space of any length. -/
def IsBlankText (b : Text) : Prop := ∀ c ∈ b, isBlank c = true

/-! ## Strings -/

/-- The escape of a code point by its number, in four hexadecimal digits. -/
inductive EscapesNumber : Text → CodePoint → Prop
  | intro {h₁ h₂ h₃ h₄ p : CodePoint} (h : hexPoint? h₁ h₂ h₃ h₄ = some p) :
      EscapesNumber [CodePoint.ofChar '\\', CodePoint.ofChar 'u', h₁, h₂, h₃, h₄] p

/-- The text begins with the escape of the second half of a surrogate pair. -/
def BeginsLowHalf (s : Text) : Prop :=
  ∃ n q r, s = n ++ r ∧ EscapesNumber n q ∧ q.isLowSurrogate = true

/-- What stands between the quotes of a string, and the string that it spells. -/
inductive Spells : Text → Text → Prop
  | nil : Spells [] []
  | plain {c : CodePoint} {s x : Text} (hquote : c.is '"' = false) (hescape : c.is '\\' = false)
      (hspace : 0x20 ≤ c.val) (h : Spells s x) : Spells (c :: s) (c :: x)
  | escaped {e c : CodePoint} {s x : Text} (he : unescape? e = some c) (h : Spells s x) :
      Spells (CodePoint.ofChar '\\' :: e :: s) (c :: x)
  | numbered {n s x : Text} {p : CodePoint} (hn : EscapesNumber n p)
      (halone : p.isHighSurrogate = true → ¬BeginsLowHalf s) (h : Spells s x) :
      Spells (n ++ s) (p :: x)
  | paired {n m s x : Text} {p q : CodePoint} (hn : EscapesNumber n p) (hm : EscapesNumber m q)
      (hhigh : p.isHighSurrogate = true) (hlow : q.isLowSurrogate = true) (h : Spells s x) :
      Spells (n ++ (m ++ s)) (CodePoint.ofSurrogates p q :: x)

/-- The name of a member: a string with white space around it. -/
inductive Names : Text → Text → Prop
  | intro {b s b' x : Text} (hb : IsBlankText b) (hs : Spells s x) (hb' : IsBlankText b') :
      Names (b ++ CodePoint.ofChar '"' :: (s ++ CodePoint.ofChar '"' :: b')) x

/-! ## Values -/

mutual

/-- A text without white space around it, and the value that it denotes. An integer has at most
`digits` digits; a number with a fraction or an exponent is rounded. -/
inductive Denotes (digits : Nat) : Text → Value → Prop
  | null : Denotes digits "null" .null
  | true : Denotes digits "true" (.bool true)
  | false : Denotes digits "false" (.bool false)
  | nan : Denotes digits "NaN" (.float (.nan 0))
  | infinity : Denotes digits "Infinity" (.float (.infinite false))
  | minusInfinity : Denotes digits "-Infinity" (.float (.infinite true))
  | integer {negative : Bool} {w : Text} (hw : IsWhole w) (hdigits : w.length ≤ digits) :
      Denotes digits (Binary64.signText negative ++ w)
        (.int (if negative then -(Text.digitsValue w : Int) else Text.digitsValue w))
  | real {negative : Bool} {w x : Text} {f : Option Text} {e : Option Int} (hw : IsWhole w)
      (hf : ∀ t ∈ f, t ≠ [] ∧ Text.AllDigits t) (hx : IsExponent x e)
      (hreal : f ≠ none ∨ e ≠ none) :
      Denotes digits (Binary64.signText negative ++ (w ++ (fractionText f ++ x)))
        (.float (Binary64.ofDecimal negative (Text.digitsValue (w ++ f.getD []))
          (e.getD 0 - (f.getD []).length)))
  | string {s x : Text} (hs : Spells s x) :
      Denotes digits (CodePoint.ofChar '"' :: (s ++ [CodePoint.ofChar '"'])) (.text x)
  | emptyArray {b : Text} (hb : IsBlankText b) :
      Denotes digits (CodePoint.ofChar '[' :: (b ++ [CodePoint.ofChar ']'])) (.list [])
  | array {s : Text} {vs : List Value} (hs : Items digits s vs) :
      Denotes digits (CodePoint.ofChar '[' :: (s ++ [CodePoint.ofChar ']'])) (.list vs)
  | emptyObject {b : Text} (hb : IsBlankText b) :
      Denotes digits (CodePoint.ofChar '\x7b' :: (b ++ [CodePoint.ofChar '\x7d'])) (.dict [])
  | object {s : Text} {es : List (Text × Value)} (hs : Members digits s es) :
      Denotes digits (CodePoint.ofChar '\x7b' :: (s ++ [CodePoint.ofChar '\x7d']))
        (.dict (namedEntries (lastOfEach es)))

/-- A value with white space around it. -/
inductive Document (digits : Nat) : Text → Value → Prop
  | intro {b s b' : Text} {v : Value} (hb : IsBlankText b) (hs : Denotes digits s v)
      (hb' : IsBlankText b') : Document digits (b ++ (s ++ b')) v

/-- The items of an array, at least one, with commas between them. -/
inductive Items (digits : Nat) : Text → List Value → Prop
  | one {s : Text} {v : Value} (hs : Document digits s v) : Items digits s [v]
  | more {s t : Text} {v : Value} {vs : List Value} (hs : Document digits s v)
      (ht : Items digits t vs) : Items digits (s ++ CodePoint.ofChar ',' :: t) (v :: vs)

/-- The members of an object, at least one, with commas between them. -/
inductive Members (digits : Nat) : Text → List (Text × Value) → Prop
  | one {n s name : Text} {v : Value} (hn : Names n name) (hs : Document digits s v) :
      Members digits (n ++ CodePoint.ofChar ':' :: s) [(name, v)]
  | more {n s t name : Text} {v : Value} {es : List (Text × Value)} (hn : Names n name)
      (hs : Document digits s v) (ht : Members digits t es) :
      Members digits (n ++ CodePoint.ofChar ':' :: (s ++ CodePoint.ofChar ',' :: t))
        ((name, v) :: es)

end

/-! ## White space -/

theorem IsBlankText.nil : IsBlankText [] := fun _ h => absurd h List.not_mem_nil

theorem IsBlankText.append {a b : Text} (ha : IsBlankText a) (hb : IsBlankText b) :
    IsBlankText (a ++ b) := by
  intro c hc
  rcases List.mem_append.mp hc with h | h
  · exact ha c h
  · exact hb c h

theorem skipBlanks_append {b : Text} (hb : IsBlankText b) (t : Text) :
    skipBlanks (b ++ t) = skipBlanks t :=
  List.dropWhile_append_of_pos hb

theorem skipBlanks_eq_nil_iff {t : Text} : skipBlanks t = [] ↔ IsBlankText t :=
  List.dropWhile_eq_nil_iff

/-- What is skipped is white space. -/
theorem exists_append_skipBlanks (t : Text) : ∃ b, IsBlankText b ∧ t = b ++ skipBlanks t :=
  ⟨t.takeWhile isBlank, List.all_eq_true.mp List.all_takeWhile,
    List.takeWhile_append_dropWhile.symm⟩

/-- White space may be added before a document, the items of an array and the members of an
object. -/
theorem Document.blank_append {digits : Nat} {b t : Text} {v : Value} (hb : IsBlankText b)
    (h : Document digits t v) : Document digits (b ++ t) v := by
  cases h with
  | intro hc hs hc' =>
    rw [← List.append_assoc]
    exact .intro (hb.append hc) hs hc'

theorem Items.blank_append {digits : Nat} {b t : Text} {vs : List Value} (hb : IsBlankText b)
    (h : Items digits t vs) : Items digits (b ++ t) vs := by
  cases h with
  | one hs => exact .one (hs.blank_append hb)
  | more hs ht =>
    rw [← List.append_assoc]
    exact .more (hs.blank_append hb) ht

theorem Names.blank_append {b t name : Text} (hb : IsBlankText b) (h : Names t name) :
    Names (b ++ t) name := by
  cases h with
  | intro hc hs hc' =>
    rw [← List.append_assoc]
    exact .intro (hb.append hc) hs hc'

theorem Members.blank_append {digits : Nat} {b t : Text} {es : List (Text × Value)}
    (hb : IsBlankText b) (h : Members digits t es) : Members digits (b ++ t) es := by
  cases h with
  | one hn hs =>
    rw [← List.append_assoc]
    exact .one (hn.blank_append hb) hs
  | more hn hs ht =>
    rw [← List.append_assoc]
    exact .more (hn.blank_append hb) hs ht

/-! ## How values begin -/

theorem beginsAtom_whole {negative : Bool} {w : Text} (hw : IsWhole w) :
    BeginsAtom (Binary64.signText negative ++ w) := by
  have h := @beginsAtom_signed negative w [] hw
  rwa [List.append_nil] at h

/-- A value begins with an atom, or it is a string, an array or an object. -/
theorem Denotes.begins {digits : Nat} {s : Text} {v : Value} (h : Denotes digits s v) :
    BeginsAtom s ∨ ∃ c u, s = CodePoint.ofChar c :: u ∧ (c = '"' ∨ c = '[' ∨ c = '\x7b') := by
  cases h with
  | null | true | false | nan | infinity | minusInfinity => exact .inl ⟨_, _, rfl, rfl⟩
  | integer hw => exact .inl (beginsAtom_whole hw)
  | real hw => exact .inl (beginsAtom_signed hw)
  | string => exact .inr ⟨'"', _, rfl, .inl rfl⟩
  | emptyArray | array => exact .inr ⟨'[', _, rfl, .inr (.inl rfl)⟩
  | emptyObject | object => exact .inr ⟨'\x7b', _, rfl, .inr (.inr rfl)⟩

theorem Denotes.beginsValue {digits : Nat} {s : Text} {v : Value} (h : Denotes digits s v) :
    BeginsValue s := by
  rcases h.begins with h | ⟨c, u, rfl, rfl | rfl | rfl⟩
  · exact h.beginsValue
  · exact ⟨_, _, rfl, rfl, rfl⟩
  · exact ⟨_, _, rfl, rfl, rfl⟩
  · exact ⟨_, _, rfl, rfl, rfl⟩

/-- A document begins with an ASCII code point. -/
theorem Document.begins {digits : Nat} {t : Text} {v : Value} (h : Document digits t v) :
    ∃ c u, t = c :: u ∧ c.val < 0x80 := by
  obtain @⟨b, s, b', _, hb, hs, -⟩ := h
  cases b with
  | cons c b =>
    have hc := hb c List.mem_cons_self
    simp only [isBlank, Bool.or_eq_true, beq_iff_eq] at hc
    exact ⟨c, _, rfl, by omega⟩
  | nil =>
    rcases hs.begins with ⟨c, u, rfl, hc⟩ | ⟨c, u, rfl, hc⟩
    · simp only [CodePoint.isAsciiAlphanumeric, CodePoint.isDigit, Bool.or_eq_true,
        Bool.and_eq_true, decide_eq_true_eq, CodePoint.is_iff, show '-'.toNat = 0x2D from rfl] at hc
      exact ⟨c, _, rfl, by omega⟩
    · rcases hc with rfl | rfl | rfl <;> exact ⟨_, _, rfl, by decide⟩

end Registry.Json
