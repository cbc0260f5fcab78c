import Registry.Proofs.Json.Numbers
import Registry.Proofs.Json.Strings
import Registry.Proofs.Outcome

/-!
# The steps of the reader

The readers of containers call the reader of a value and one another. When each of them gives a
result, and when it stops at the limit of levels, is told once, by what the readers give that it
calls; the first code point tells which reader a value is left to (`Beginning`). Nothing after this
needs to open the readers.
-/

namespace Registry.Json

/-! ## How texts begin -/

theorem not_begins {x : Char} {t u : Text} {c : CodePoint} (ht : t = c :: u)
    (hc : c.is x = false) : ∀ d ∈ t.head?, d.is x = false := by
  rw [ht]
  rintro d ⟨⟩
  exact hc

/-- A text begins with a code point or it does not. -/
theorem begins_or_not (x : Char) (t : Text) :
    (∃ r, t = CodePoint.ofChar x :: r) ∨ ∀ c ∈ t.head?, c.is x = false := by
  cases t with
  | nil => exact .inr fun c hc => by cases hc
  | cons c t =>
    cases hc : c.is x with
    | true => exact .inl ⟨t, by rw [CodePoint.eq_ofChar_of_is hc]⟩
    | false => exact .inr (not_begins rfl hc)

/-! ## Atoms -/

theorem takeLiteral?_eq_some {t r : Text} {v : Value} (h : takeLiteral? t = some (v, r)) :
    ∃ w, (w, v) ∈ literals ∧ t = w ++ r := by
  obtain ⟨⟨w, u⟩, hmem, hword⟩ := List.exists_of_findSome?_eq_some h
  obtain ⟨left, hdrop, heq⟩ := Option.map_eq_some_iff.mp hword
  cases heq
  exact ⟨w, hmem, Text.dropPrefix?_eq_some_iff.mp hdrop⟩

/-- An atom is a literal or a number that has a value. -/
theorem readAtom_eq_ok {t r : Text} {v : Value} (h : readAtom t = .ok (v, r)) :
    takeLiteral? t = some (v, r) ∨ ∃ n, takeNumber? t = some (n, r) ∧ n.value = .ok v := by
  rw [readAtom] at h
  split at h
  · next p hliteral =>
    cases h
    exact .inl hliteral
  split at h
  · next n left hnumber =>
    obtain ⟨w, hvalue, heq⟩ := map_eq_ok.mp h
    cases heq
    exact .inr ⟨n, hnumber, hvalue⟩
  · cases h

theorem readAtom_ne_nesting (t : Text) : readAtom t ≠ .error .nesting := by
  intro h
  unfold readAtom at h
  split at h
  · cases h
  split at h
  · next n left _ =>
    obtain ⟨negative, w, f, e⟩ := n
    have hvalue := map_eq_error.mp h
    rw [Number.value] at hvalue
    split at hvalue
    · split at hvalue <;> cases hvalue
    · cases hvalue
  · cases h

/-! ## Strings and names -/

/-- No string is nested too deeply. -/
theorem readUnits_ne_nesting (opening t : Text) : readUnits opening t ≠ .error .nesting := by
  have hcons (u : StringUnit) {x : Step (List StringUnit)} (hx : x ≠ .error .nesting) :
      consUnit u x ≠ .error .nesting := by
    cases x with
    | ok p => exact fun h => nomatch h
    | error e => exact fun h => hx (congrArg _ (Except.error.inj h))
  fun_induction readUnits opening t with
  | case5 _ _ _ _ _ _ _ _ _ _ _ _ _ ih => exact hcons _ ih
  | case8 _ _ _ _ _ _ _ _ ih => exact hcons _ ih
  | case11 _ _ _ _ _ ih => exact hcons _ ih
  | _ => exact fun h => nomatch h

theorem readString_ne_nesting (opening t : Text) : readString opening t ≠ .error .nesting := by
  have h := readUnits_ne_nesting opening t
  rw [readString]
  cases hread : readUnits opening t with
  | ok p =>
    intro hok
    cases hok
  | error e =>
    rw [hread] at h
    exact fun he => h (congrArg _ (Except.error.inj he))

/-- A name is a string, and a colon follows it. -/
theorem readName_eq_ok {t r name : Text} :
    readName t = .ok (name, r) ↔ ∃ u left rest, t = CodePoint.ofChar '"' :: u
      ∧ readString t u = .ok (name, left) ∧ skipBlanks left = CodePoint.ofChar ':' :: rest
      ∧ r = skipBlanks rest := by
  constructor
  · intro h
    unfold readName at h
    split at h
    · cases h
    split at h
    · next c u hquote =>
      split at h
      · cases h
      next x left hread =>
      split at h
      · cases h
      next d rest hskip =>
      split at h
      · next hcolon =>
        cases h
        refine ⟨u, left, rest, by rw [CodePoint.eq_ofChar_of_is hquote], hread, ?_, rfl⟩
        rw [hskip, CodePoint.eq_ofChar_of_is hcolon]
      · cases h
    · cases h
  · rintro ⟨u, left, rest, rfl, hread, hskip, rfl⟩
    rw [readName]
    simp only [show (CodePoint.ofChar '"').is '"' = true from rfl, if_true, hread, hskip,
      show (CodePoint.ofChar ':').is ':' = true from rfl]

theorem readName_ne_nesting (t : Text) : readName t ≠ .error .nesting := by
  intro h
  unfold readName at h
  split at h
  · cases h
  split at h
  · split at h
    · next e hread =>
      cases h
      exact readString_ne_nesting _ _ hread
    · split at h
      · cases h
      · split at h <;> cases h
  · cases h

/-! ## Containers -/

section

variable {value : Text → Step Value} {count : Nat} {t r : Text} {v : Value}

/-- After an item the array is closed, or a comma and the other items follow. -/
theorem readItems_succ_eq_ok {vs : List Value} :
    readItems value (count + 1) t = .ok (vs, r) ↔ ∃ v left, value t = .ok (v, left)
      ∧ (skipBlanks left = CodePoint.ofChar ']' :: r ∧ vs = [v]
        ∨ ∃ rest ws, skipBlanks left = CodePoint.ofChar ',' :: rest
          ∧ readItems value count (skipBlanks rest) = .ok (ws, r) ∧ vs = v :: ws) := by
  rw [readItems]
  constructor
  · intro h
    split at h
    · cases h
    next v left hread =>
    refine ⟨v, left, hread, ?_⟩
    split at h
    · cases h
    next c rest hskip =>
    rw [hskip]
    split at h
    · next hclose =>
      cases h
      exact .inl ⟨by rw [CodePoint.eq_ofChar_of_is hclose], rfl⟩
    split at h
    · next hcomma =>
      split at h
      · next ws left' hitems =>
        cases h
        exact .inr ⟨rest, ws, by rw [CodePoint.eq_ofChar_of_is hcomma], hitems, rfl⟩
      · cases h
    · cases h
  · rintro ⟨v, left, hread, ⟨hskip, rfl⟩ | ⟨rest, ws, hskip, hitems, rfl⟩⟩
    · simp only [hread, hskip]
      rfl
    · simp only [hread, hskip, hitems, show (CodePoint.ofChar ',').is ']' = false from rfl,
        show (CodePoint.ofChar ',').is ',' = true from rfl, Bool.false_eq_true, if_false, if_true]

theorem readItems_succ_eq_nesting :
    readItems value (count + 1) t = .error .nesting ↔ value t = .error .nesting
      ∨ ∃ v left rest, value t = .ok (v, left) ∧ skipBlanks left = CodePoint.ofChar ',' :: rest
        ∧ readItems value count (skipBlanks rest) = .error .nesting := by
  rw [readItems]
  constructor
  · intro h
    split at h
    · next e hread =>
      cases h
      exact .inl hread
    next v left hread =>
    refine .inr ⟨v, left, ?_⟩
    split at h
    · cases h
    next c rest hskip =>
    split at h
    · cases h
    split at h
    · next hcomma =>
      split at h
      · cases h
      · next e hitems =>
        cases h
        exact ⟨rest, hread, by rw [hskip, CodePoint.eq_ofChar_of_is hcomma], hitems⟩
    · cases h
  · rintro (hread | ⟨v, left, rest, hread, hskip, hitems⟩)
    · rw [hread]
    · simp only [hread, hskip, hitems, show (CodePoint.ofChar ',').is ']' = false from rfl,
        show (CodePoint.ofChar ',').is ',' = true from rfl, Bool.false_eq_true, if_false, if_true]

/-- After a member the object is closed, or a comma and the other members follow. -/
theorem readMembers_succ_eq_ok {ms : List (Value × Value)} :
    readMembers value (count + 1) t = .ok (ms, r) ↔ ∃ name s v left,
      readName t = .ok (name, s) ∧ value s = .ok (v, left)
        ∧ (skipBlanks left = CodePoint.ofChar '\x7d' :: r ∧ ms = [(.text name, v)]
          ∨ ∃ rest ns, skipBlanks left = CodePoint.ofChar ',' :: rest
            ∧ readMembers value count (skipBlanks rest) = .ok (ns, r)
            ∧ ms = (.text name, v) :: ns) := by
  rw [readMembers]
  constructor
  · intro h
    split at h
    · cases h
    next name s hname =>
    split at h
    · cases h
    next v left hread =>
    refine ⟨name, s, v, left, hname, hread, ?_⟩
    split at h
    · cases h
    next c rest hskip =>
    rw [hskip]
    split at h
    · next hclose =>
      cases h
      exact .inl ⟨by rw [CodePoint.eq_ofChar_of_is hclose], rfl⟩
    split at h
    · next hcomma =>
      split at h
      · next ns left' hmembers =>
        cases h
        exact .inr ⟨rest, ns, by rw [CodePoint.eq_ofChar_of_is hcomma], hmembers, rfl⟩
      · cases h
    · cases h
  · rintro ⟨name, s, v, left, hname, hread, ⟨hskip, rfl⟩ | ⟨rest, ns, hskip, hmembers, rfl⟩⟩
    · simp only [hname, hread, hskip]
      rfl
    · simp only [hname, hread, hskip, hmembers,
        show (CodePoint.ofChar ',').is '\x7d' = false from rfl,
        show (CodePoint.ofChar ',').is ',' = true from rfl, Bool.false_eq_true, if_false, if_true]

theorem readMembers_succ_eq_nesting :
    readMembers value (count + 1) t = .error .nesting ↔ ∃ name s, readName t = .ok (name, s)
      ∧ (value s = .error .nesting
        ∨ ∃ v left rest, value s = .ok (v, left) ∧ skipBlanks left = CodePoint.ofChar ',' :: rest
          ∧ readMembers value count (skipBlanks rest) = .error .nesting) := by
  rw [readMembers]
  constructor
  · intro h
    split at h
    · next e hname =>
      cases h
      exact absurd hname (readName_ne_nesting t)
    next name s hname =>
    refine ⟨name, s, hname, ?_⟩
    split at h
    · next e hread =>
      cases h
      exact .inl hread
    next v left hread =>
    refine .inr ⟨v, left, ?_⟩
    split at h
    · cases h
    next c rest hskip =>
    split at h
    · cases h
    split at h
    · next hcomma =>
      split at h
      · cases h
      · next e hmembers =>
        cases h
        exact ⟨rest, hread, by rw [hskip, CodePoint.eq_ofChar_of_is hcomma], hmembers⟩
    · cases h
  · rintro ⟨name, s, hname, hread | ⟨v, left, rest, hread, hskip, hmembers⟩⟩
    · simp only [hname, hread]
    · simp only [hname, hread, hskip, hmembers,
        show (CodePoint.ofChar ',').is '\x7d' = false from rfl,
        show (CodePoint.ofChar ',').is ',' = true from rfl, Bool.false_eq_true, if_false, if_true]

theorem readArray_closed (h : skipBlanks t = CodePoint.ofChar ']' :: r) :
    readArray value t = .ok (.list [], r) := by
  rw [readArray, h]
  rfl

/-- An array that is not closed at once has items. -/
theorem readArray_eq_readItems (h : ∀ c ∈ (skipBlanks t).head?, c.is ']' = false) :
    readArray value t = (readItems value (skipBlanks t).length (skipBlanks t)).map
      fun p => (.list p.1, p.2) := by
  rw [readArray]
  cases hskip : skipBlanks t with
  | nil => rfl
  | cons c rest =>
    rw [hskip] at h
    simp only [h c rfl, Bool.false_eq_true, if_false, List.length_cons]
    cases readItems value (rest.length + 1) (c :: rest) with
    | error e => rfl
    | ok p => rfl

theorem readObject_closed (h : skipBlanks t = CodePoint.ofChar '\x7d' :: r) :
    readObject value t = .ok (.dict [], r) := by
  rw [readObject, h]
  rfl

/-- An object that is not closed at once has members. -/
theorem readObject_eq_readMembers (h : ∀ c ∈ (skipBlanks t).head?, c.is '\x7d' = false) :
    readObject value t = (readMembers value (skipBlanks t).length (skipBlanks t)).map
      fun p => (Value.dictOf p.1, p.2) := by
  rw [readObject]
  cases hskip : skipBlanks t with
  | nil => rfl
  | cons c rest =>
    rw [hskip] at h
    simp only [h c rfl, Bool.false_eq_true, if_false, List.length_cons]
    cases readMembers value (rest.length + 1) (c :: rest) with
    | error e => rfl
    | ok p => rfl

end

/-! ## Values -/

/-- What a text begins with, as far as the reader of a value tells by it which reader it is left
to. -/
inductive Beginning : Text → Prop
  | nothing : Beginning []
  | string (t : Text) : Beginning (CodePoint.ofChar '"' :: t)
  | object (t : Text) : Beginning (CodePoint.ofChar '\x7b' :: t)
  | array (t : Text) : Beginning (CodePoint.ofChar '[' :: t)
  | atom {c : CodePoint} (t : Text) (hquote : c.is '"' = false) (hbrace : c.is '\x7b' = false)
      (hbracket : c.is '[' = false) : Beginning (c :: t)

theorem Beginning.of : (t : Text) → Beginning t
  | [] => .nothing
  | c :: t => by
    cases hquote : c.is '"' with
    | true => rw [CodePoint.eq_ofChar_of_is hquote]; exact .string t
    | false =>
      cases hbrace : c.is '\x7b' with
      | true => rw [CodePoint.eq_ofChar_of_is hbrace]; exact .object t
      | false =>
        cases hbracket : c.is '[' with
        | true => rw [CodePoint.eq_ofChar_of_is hbracket]; exact .array t
        | false => exact .atom t hquote hbrace hbracket

section

variable (depth : Nat) (t : Text)

theorem readValue_nil : readValue depth [] = .error (.fault .value []) := by
  cases depth <;> rfl

theorem readValue_quote : readValue depth (CodePoint.ofChar '"' :: t)
    = (readString (CodePoint.ofChar '"' :: t) t).map fun p => (.text p.1, p.2) := by
  have h (inner : Text → Step Value) : readValueWith inner (CodePoint.ofChar '"' :: t)
      = (readString (CodePoint.ofChar '"' :: t) t).map fun p => (.text p.1, p.2) := by
    rw [readValueWith]
    simp only [show (CodePoint.ofChar '"').is '"' = true from rfl, if_true]
    cases readString (CodePoint.ofChar '"' :: t) t with
    | error e => rfl
    | ok p => rfl
  cases depth with
  | zero => exact h readTooDeep
  | succ depth => exact h (readValue depth)

theorem readValue_plain {c : CodePoint} (hquote : c.is '"' = false) (hbrace : c.is '\x7b' = false)
    (hbracket : c.is '[' = false) : readValue depth (c :: t) = readAtom (c :: t) := by
  cases depth with
  | zero =>
    rw [readValue, readValueWith]
    simp only [hquote, hbrace, hbracket, Bool.false_eq_true, or_self, if_false]
  | succ depth =>
    rw [readValue, readValueWith]
    simp only [hquote, hbrace, hbracket, Bool.false_eq_true, if_false]

theorem readValue_brace : readValue (depth + 1) (CodePoint.ofChar '\x7b' :: t)
    = readObject (readValue depth) t := rfl

theorem readValue_bracket : readValue (depth + 1) (CodePoint.ofChar '[' :: t)
    = readArray (readValue depth) t := rfl

end

/-- A text that is read as a whole has a value, and nothing but white space follows. -/
theorem readAll_eq_ok {t : Text} {v : Value} : readAll t = .ok v ↔
    ∃ left, readValue nestingLimit (skipBlanks t) = .ok (v, left) ∧ skipBlanks left = [] := by
  rw [readAll]
  constructor
  · intro h
    split at h
    · cases h
    next w left hread =>
    split at h
    · next hleft =>
      cases h
      exact ⟨left, hread, hleft⟩
    · cases h
  · rintro ⟨left, hread, hleft⟩
    simp only [hread, hleft]

theorem readAll_eq_nesting {t : Text} : readAll t = .error .nesting ↔
    readValue nestingLimit (skipBlanks t) = .error .nesting := by
  rw [readAll]
  split
  · next e hread => rw [hread, Except.error.injEq, Except.error.injEq]
  · next v left hread =>
    rw [hread]
    constructor
    · intro h
      split at h <;> cases h
    · intro h
      cases h

end Registry.Json
