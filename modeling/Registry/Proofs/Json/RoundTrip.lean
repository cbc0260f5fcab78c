import Registry.Proofs.Json.Canonical
import Registry.Proofs.Json.Steps

/-!
# Documents read back

The document of a value is read back as the canonical form of the value, whatever follows it that
cannot go on with a number (`readValue_writeValue`). The levels that writing allows are those that
reading allows, so a document that could be written is never too deep to be read. The induction is
on the value; the readers of items and members are given a count, and the text of a container is
longer than it has parts (`length_le_commaSeparated`).
-/

namespace Registry

namespace Json

/-! ## How documents begin -/

/-- The text begins with a code point that begins a value: no white space and no closing bracket. -/
def BeginsValue (t : Text) : Prop :=
  ∃ c s, t = c :: s ∧ isBlank c = false ∧ c.is ']' = false

theorem BeginsValue.append {t : Text} (h : BeginsValue t) (r : Text) : BeginsValue (t ++ r) := by
  obtain ⟨c, s, rfl, hb, hc⟩ := h
  exact ⟨c, s ++ r, rfl, hb, hc⟩

theorem BeginsValue.skipBlanks {t : Text} (h : BeginsValue t) : skipBlanks t = t := by
  obtain ⟨c, s, rfl, hb, -⟩ := h
  rw [Json.skipBlanks, List.dropWhile_cons_of_neg (by simp [hb])]

theorem BeginsValue.length_pos {t : Text} (h : BeginsValue t) : 0 < t.length := by
  obtain ⟨c, s, rfl, -⟩ := h
  exact Nat.succ_pos _

/-- The text begins with a letter, a digit or a minus sign. -/
def BeginsAtom (t : Text) : Prop :=
  ∃ c s, t = c :: s ∧ (c.isAsciiAlphanumeric || c.is '-') = true

/-- What an atom begins with is none of the marks that others begin with. -/
theorem BeginsAtom.exists_cons {t : Text} (h : BeginsAtom t) :
    ∃ c s, t = c :: s ∧ isBlank c = false ∧ c.is '"' = false ∧ c.is '\x7b' = false
      ∧ c.is '[' = false ∧ c.is ']' = false := by
  obtain ⟨c, s, rfl, hc⟩ := h
  refine ⟨c, s, rfl, ?_⟩
  simp only [CodePoint.isAsciiAlphanumeric, CodePoint.isDigit, Bool.or_eq_true, Bool.and_eq_true,
    decide_eq_true_eq, CodePoint.is_iff, show '-'.toNat = 0x2D from rfl] at hc
  simp only [isBlank, Bool.or_eq_false_iff, beq_eq_false_iff_ne, CodePoint.is_eq_false_iff,
    show '"'.toNat = 0x22 from rfl, show '\x7b'.toNat = 0x7B from rfl,
    show '['.toNat = 0x5B from rfl, show ']'.toNat = 0x5D from rfl]
  omega

theorem BeginsAtom.beginsValue {t : Text} (h : BeginsAtom t) : BeginsValue t := by
  obtain ⟨c, s, rfl, hb, -, -, -, hc⟩ := h.exists_cons
  exact ⟨c, s, rfl, hb, hc⟩

theorem BeginsAtom.append {t : Text} (h : BeginsAtom t) (r : Text) : BeginsAtom (t ++ r) := by
  obtain ⟨c, s, rfl, hc⟩ := h
  exact ⟨c, s ++ r, rfl, hc⟩

theorem beginsAtom_signed {negative : Bool} {w r : Text} (hw : IsWhole w) :
    BeginsAtom (Binary64.signText negative ++ (w ++ r)) := by
  cases negative with
  | true => exact ⟨CodePoint.ofChar '-', w ++ r, rfl, rfl⟩
  | false =>
    obtain ⟨c, s, rfl, hc⟩ := hw.exists_cons
    exact ⟨c, s ++ r, rfl, by rw [CodePoint.isAsciiAlphanumeric, hc]; rfl⟩

theorem beginsAtom_ofInt (n : Int) : BeginsAtom (Text.ofInt n) := by
  rw [ofInt_eq_signText, ← List.append_nil (Text.ofNat n.natAbs)]
  exact beginsAtom_signed (ofNat_isWhole n.natAbs)

theorem beginsAtom_text {x : Binary64} (hx : x.isFinite = true) : BeginsAtom x.text := by
  cases x with
  | nan => cases hx
  | infinite negative => cases hx
  | finite negative m =>
    obtain ⟨w, f, e, ht, hw, -⟩ := isFloatText_shortestText m
    show BeginsAtom (Binary64.signText negative ++ m.shortestText Numeral.full)
    rw [ht]
    exact beginsAtom_signed hw

theorem beginsAtom_writeBool (b : Bool) : BeginsAtom (writeBool b) := by
  cases b <;> exact ⟨_, _, rfl, rfl⟩

/-! ## What writing gives -/

theorem writeInt_eq_ok {n : Int} {t : Text} (h : writeInt n = .ok t) :
    (Nat.toDigits 10 n.natAbs).length ≤ integerDigitLimit ∧ t = Text.ofInt n := by
  unfold writeInt at h
  split at h
  · cases h
  · next hn =>
    cases h
    exact ⟨Nat.le_of_not_lt hn, rfl⟩

theorem writeBinary64_eq_ok {x : Binary64} {t : Text} (h : writeBinary64 x = .ok t) :
    x.isFinite = true ∧ t = x.text := by
  unfold writeBinary64 at h
  split at h
  · next hx =>
    cases h
    exact ⟨hx, rfl⟩
  · cases h

/-- What `writeValue` gives for a container: the parts that it holds, written one level lower. -/
theorem writeContainer_eq_ok {depth : Nat} {t : Text} {close : List Text → Text}
    {parts : Except Offence (List Text)}
    (h : (if depth = 0 then .error .nesting else parts.map close) = .ok t) :
    0 < depth ∧ ∃ ps, parts = .ok ps ∧ t = close ps := by
  split at h
  · cases h
  · next hd =>
    cases parts with
    | error e => cases h
    | ok ps =>
      cases h
      exact ⟨Nat.pos_of_ne_zero hd, ps, rfl, rfl⟩

theorem beginsValue_writeValue {depth : Nat} {v : Value} {t : Text}
    (h : writeValue depth v = .ok t) : BeginsValue t := by
  cases v with
  | null => cases h; exact ⟨_, _, rfl, rfl, rfl⟩
  | bool b => cases h; exact (beginsAtom_writeBool b).beginsValue
  | int n =>
    rw [writeValue] at h
    rw [(writeInt_eq_ok h).2]
    exact (beginsAtom_ofInt n).beginsValue
  | float x =>
    rw [writeValue] at h
    rw [(writeBinary64_eq_ok h).2]
    exact (beginsAtom_text (writeBinary64_eq_ok h).1).beginsValue
  | text s => cases h; exact ⟨_, _, rfl, rfl, rfl⟩
  | list items =>
    rw [writeValue] at h
    obtain ⟨-, ps, -, rfl⟩ := writeContainer_eq_ok h
    exact ⟨_, _, rfl, rfl, rfl⟩
  | tuple items =>
    rw [writeValue] at h
    obtain ⟨-, ps, -, rfl⟩ := writeContainer_eq_ok h
    exact ⟨_, _, rfl, rfl, rfl⟩
  | dict entries =>
    rw [writeValue] at h
    obtain ⟨-, ps, -, rfl⟩ := writeContainer_eq_ok h
    exact ⟨_, _, rfl, rfl, rfl⟩
  | _ => rw [writeValue] at h; cases h

/-! ## Parts with commas between them -/

theorem commaSeparated_singleton (p : Text) : commaSeparated [p] = p := by
  simp [commaSeparated]

theorem commaSeparated_cons_cons (p q : Text) (ps : List Text) :
    commaSeparated (p :: q :: ps) = p ++ (Text.ofString ", " ++ commaSeparated (q :: ps)) := by
  simp [commaSeparated]

theorem commaSeparated_cons_cons_append (p q : Text) (ps : List Text) (r : Text) :
    commaSeparated (p :: q :: ps) ++ r
      = p ++ CodePoint.ofChar ',' :: CodePoint.ofChar ' ' :: (commaSeparated (q :: ps) ++ r) := by
  rw [commaSeparated_cons_cons, List.append_assoc, List.append_assoc]
  rfl

theorem length_le_commaSeparated {ps : List Text} (h : ∀ p ∈ ps, 0 < p.length) :
    ps.length ≤ (commaSeparated ps).length := by
  induction ps with
  | nil => exact Nat.zero_le _
  | cons p ps ih =>
    have hp := h p (by simp)
    have ih := ih fun q hq => h q (List.mem_cons_of_mem p hq)
    cases ps with
    | nil =>
      rw [commaSeparated_singleton]
      exact hp
    | cons q ps =>
      rw [commaSeparated_cons_cons, List.length_append, List.length_append, List.length_cons]
      omega

/-- What follows a comma is read from the code point after the space on. -/
theorem skipBlanks_afterComma {t : Text} (h : BeginsValue t) :
    skipBlanks (CodePoint.ofChar ' ' :: t) = t := by
  show skipBlanks t = t
  exact h.skipBlanks

theorem readItems_last {value : Text → Step Value} {count : Nat} {t r : Text} {v : Value}
    (h : value t = .ok (v, CodePoint.ofChar ']' :: r)) :
    readItems value (count + 1) t = .ok ([v], r) :=
  readItems_succ_eq_ok.mpr ⟨v, _, h, .inl ⟨rfl, rfl⟩⟩

theorem readItems_comma {value : Text → Step Value} {count : Nat} {t s r : Text} {v : Value}
    {vs : List Value} (h : value t = .ok (v, CodePoint.ofChar ',' :: CodePoint.ofChar ' ' :: s))
    (hs : BeginsValue s) (hrest : readItems value count s = .ok (vs, r)) :
    readItems value (count + 1) t = .ok (v :: vs, r) := by
  refine readItems_succ_eq_ok.mpr ⟨v, _, h, .inr ⟨_, vs, rfl, ?_, rfl⟩⟩
  rwa [skipBlanks_afterComma hs]

/-- A member is a name, a colon and a value. -/
theorem readName_member (key t r : Text) (h : BeginsValue t) :
    readName (writeString key ++ Text.ofString ": " ++ t ++ r)
      = .ok (Utf16.joinSurrogates key, t ++ r) := by
  have hs : writeString key ++ Text.ofString ": " ++ t ++ r = CodePoint.ofChar '"'
      :: (key.flatMap escapePoint ++ CodePoint.ofChar '"' :: CodePoint.ofChar ':'
        :: CodePoint.ofChar ' ' :: (t ++ r)) := by
    simp [writeString, Text.ofString]
  rw [hs]
  exact readName_eq_ok.mpr ⟨_, _, _, rfl, readString_writeString _ key _, rfl,
    (skipBlanks_afterComma (h.append r)).symm⟩

theorem readMembers_last {value : Text → Step Value} {count : Nat} {t s r name : Text} {v : Value}
    (hn : readName t = .ok (name, s)) (h : value s = .ok (v, CodePoint.ofChar '\x7d' :: r)) :
    readMembers value (count + 1) t = .ok ([(.text name, v)], r) :=
  readMembers_succ_eq_ok.mpr ⟨name, s, v, _, hn, h, .inl ⟨rfl, rfl⟩⟩

theorem readMembers_comma {value : Text → Step Value} {count : Nat} {t s u r name : Text}
    {v : Value} {ms : List (Value × Value)} (hn : readName t = .ok (name, s))
    (h : value s = .ok (v, CodePoint.ofChar ',' :: CodePoint.ofChar ' ' :: u))
    (hu : BeginsValue u) (hrest : readMembers value count u = .ok (ms, r)) :
    readMembers value (count + 1) t = .ok ((.text name, v) :: ms, r) := by
  refine readMembers_succ_eq_ok.mpr ⟨name, s, v, _, hn, h, .inr ⟨_, ms, rfl, ?_, rfl⟩⟩
  rwa [skipBlanks_afterComma hu]

/-! ## Values that hold no others -/

theorem readValue_atom {depth : Nat} {t : Text} (h : BeginsAtom t) :
    readValue depth t = readAtom t := by
  obtain ⟨c, s, rfl, -, hquote, hbrace, hbracket, -⟩ := h.exists_cons
  exact readValue_plain depth s hquote hbrace hbracket

theorem readValue_writeBool (depth : Nat) (b : Bool) (r : Text) :
    readValue depth (writeBool b ++ r) = .ok (.bool b, r) := by
  rw [readValue_atom ((beginsAtom_writeBool b).append r)]
  cases b <;> rfl

theorem readValue_writeString (depth : Nat) (t r : Text) :
    readValue depth (writeString t ++ r) = .ok (.text (Utf16.joinSurrogates t), r) := by
  have hs : writeString t ++ r
      = CodePoint.ofChar '"' :: (t.flatMap escapePoint ++ CodePoint.ofChar '"' :: r) := by
    simp [writeString, Text.ofString]
  rw [hs, readValue_quote, readString_writeString]
  rfl

/-! ## Containers -/

theorem readValue_bracketed_nil (depth : Nat) (r : Text) :
    readValue (depth + 1) (bracketed [] ++ r) = .ok (.list [], r) := rfl

theorem readValue_braced_nil (depth : Nat) (r : Text) :
    readValue (depth + 1) (braced [] ++ r) = .ok (.dict [], r) := rfl

/-- What stands between brackets is read as an array, given what its items are read as. -/
theorem readValue_bracketed {depth : Nat} {ps : List Text} {vs : List Value} {r : Text}
    (hb : BeginsValue (commaSeparated ps)) (hlen : ps.length ≤ (commaSeparated ps).length)
    (h : ∀ count, ps.length ≤ count → readItems (readValue depth) count
      (commaSeparated ps ++ CodePoint.ofChar ']' :: r) = .ok (vs, r)) :
    readValue (depth + 1) (bracketed ps ++ r) = .ok (.list vs, r) := by
  have hs : bracketed ps ++ r = CodePoint.ofChar '['
      :: (commaSeparated ps ++ CodePoint.ofChar ']' :: r) := by
    simp [bracketed, Text.ofString]
  have hbegins := hb.append (CodePoint.ofChar ']' :: r)
  have hskip := hbegins.skipBlanks
  obtain ⟨c, s, ht, -, hc⟩ := hbegins
  rw [hs, readValue_bracket, readArray_eq_readItems (not_begins (hskip.trans ht) hc), hskip,
    h _ (by rw [List.length_append]; omega)]
  rfl

/-- What stands between braces is read as an object, given what its members are read as. -/
theorem readValue_braced {depth : Nat} {ps : List Text} {ms : List (Value × Value)} {r : Text}
    (hb : ∃ s, commaSeparated ps = CodePoint.ofChar '"' :: s)
    (hlen : ps.length ≤ (commaSeparated ps).length)
    (h : ∀ count, ps.length ≤ count → readMembers (readValue depth) count
      (commaSeparated ps ++ CodePoint.ofChar '\x7d' :: r) = .ok (ms, r)) :
    readValue (depth + 1) (braced ps ++ r) = .ok (Value.dictOf ms, r) := by
  have hs : braced ps ++ r = CodePoint.ofChar '\x7b'
      :: (commaSeparated ps ++ CodePoint.ofChar '\x7d' :: r) := by
    simp [braced, Text.ofString]
  obtain ⟨s, ht⟩ := hb
  have hskip : skipBlanks (commaSeparated ps ++ CodePoint.ofChar '\x7d' :: r)
      = commaSeparated ps ++ CodePoint.ofChar '\x7d' :: r := by
    rw [ht]
    rfl
  have hbegins : skipBlanks (commaSeparated ps ++ CodePoint.ofChar '\x7d' :: r)
      = CodePoint.ofChar '"' :: (s ++ CodePoint.ofChar '\x7d' :: r) := by rw [hskip, ht]; rfl
  rw [hs, readValue_brace, readObject_eq_readMembers (not_begins hbegins rfl), hskip,
    h _ (by rw [List.length_append]; omega)]
  rfl

theorem writeItems_cons_eq_ok {depth : Nat} {v : Value} {rest : List Value} {ps : List Text}
    (h : writeItems depth (v :: rest) = .ok ps) :
    ∃ t ts, writeValue depth v = .ok t ∧ writeItems depth rest = .ok ts ∧ ps = t :: ts := by
  rw [writeItems] at h
  cases ht : writeValue depth v with
  | error e =>
    rw [ht] at h
    cases h
  | ok t =>
    rw [ht] at h
    cases hts : writeItems depth rest with
    | error e =>
      rw [hts] at h
      cases h
    | ok ts =>
      rw [hts] at h
      cases h
      exact ⟨t, ts, rfl, rfl, rfl⟩

theorem writeEntries_cons_eq_ok {depth : Nat} {k v : Value} {rest : List (Value × Value)}
    {ps : List Text} (h : writeEntries depth ((k, v) :: rest) = .ok ps) :
    ∃ key t ts, keyText k = .ok key ∧ writeValue depth v = .ok t
      ∧ writeEntries depth rest = .ok ts
      ∧ ps = (writeString key ++ Text.ofString ": " ++ t) :: ts := by
  rw [writeEntries] at h
  cases hk : keyText k with
  | error e =>
    rw [hk] at h
    cases h
  | ok key =>
    cases ht : writeValue depth v with
    | error e =>
      rw [hk, ht] at h
      cases h
    | ok t =>
      rw [hk, ht] at h
      cases hts : writeEntries depth rest with
      | error e =>
        rw [hts] at h
        cases h
      | ok ts =>
        rw [hts] at h
        cases h
        exact ⟨key, t, ts, rfl, rfl, rfl, rfl⟩

theorem length_pos_of_mem_writeItems {depth : Nat} {items : List Value} {ps : List Text}
    (h : writeItems depth items = .ok ps) : ∀ p ∈ ps, 0 < p.length := by
  induction items generalizing ps with
  | nil =>
    cases h
    exact fun p hp => absurd hp List.not_mem_nil
  | cons v rest ih =>
    obtain ⟨t, ts, ht, hts, rfl⟩ := writeItems_cons_eq_ok h
    exact List.forall_mem_cons.mpr ⟨(beginsValue_writeValue ht).length_pos, ih hts⟩

theorem length_pos_of_mem_writeEntries {depth : Nat} {entries : List (Value × Value)}
    {ps : List Text} (h : writeEntries depth entries = .ok ps) : ∀ p ∈ ps, 0 < p.length := by
  induction entries generalizing ps with
  | nil =>
    cases h
    exact fun p hp => absurd hp List.not_mem_nil
  | cons e rest ih =>
    obtain ⟨key, t, ts, -, -, hts, rfl⟩ := writeEntries_cons_eq_ok h
    exact List.forall_mem_cons.mpr ⟨Nat.succ_pos _, ih hts⟩

theorem beginsValue_commaSeparated {p : Text} (h : BeginsValue p) (ps : List Text) :
    BeginsValue (commaSeparated (p :: ps)) := by
  cases ps with
  | nil => rwa [commaSeparated_singleton]
  | cons q ps =>
    rw [commaSeparated_cons_cons]
    exact h.append _

theorem exists_quote_commaSeparated (key t : Text) (ps : List Text) :
    ∃ s, commaSeparated ((writeString key ++ Text.ofString ": " ++ t) :: ps)
      = CodePoint.ofChar '"' :: s := by
  cases ps with
  | nil => exact ⟨_, commaSeparated_singleton _⟩
  | cons q ps => exact ⟨_, commaSeparated_cons_cons _ _ _⟩

/-- The text of a key is read as its name. -/
theorem joinSurrogates_keyText {k : Value} {key : Text} (h : keyText k = .ok key) :
    Utf16.joinSurrogates key = k.keyName := by
  cases k with
  | text t =>
    cases h
    rfl
  | int n =>
    rw [keyText] at h
    rw [(writeInt_eq_ok h).2]
    exact Utf16.joinSurrogates_eq_self (Text.ofInt_isPrintable n).noSurrogates.unpaired
  | float x =>
    rw [keyText] at h
    rw [(writeBinary64_eq_ok h).2]
    exact Utf16.joinSurrogates_eq_self (Text.binary64Text_isPrintable x).noSurrogates.unpaired
  | bool b =>
    cases h
    cases b <;> rfl
  | null =>
    cases h
    rfl
  | _ => cases h

theorem endsNumber_mark {c : Char} {r : Text} (h : c = ',' ∨ c = ']' ∨ c = '\x7d') :
    EndsNumber (CodePoint.ofChar c :: r) := by
  rcases h with rfl | rfl | rfl <;> rintro c ⟨⟩ <;> decide

/-- An array is read back if its items are. -/
theorem readValue_writeItems {depth : Nat} {items : List Value} {ps : List Text} {r : Text}
    (hps : writeItems depth items = .ok ps)
    (h : items ≠ [] → ∀ count, ps.length ≤ count → readItems (readValue depth) count
      (commaSeparated ps ++ CodePoint.ofChar ']' :: r) = .ok (Value.canonicalItems items, r)) :
    readValue (depth + 1) (bracketed ps ++ r) = .ok (.list (Value.canonicalItems items), r) := by
  cases items with
  | nil =>
    cases hps
    exact readValue_bracketed_nil depth r
  | cons v rest =>
    have hlen := length_le_commaSeparated (length_pos_of_mem_writeItems hps)
    obtain ⟨t, ts, ht, -, rfl⟩ := writeItems_cons_eq_ok hps
    exact readValue_bracketed (beginsValue_commaSeparated (beginsValue_writeValue ht) ts) hlen
      (h (List.cons_ne_nil v rest))

/-- An object is read back if its members are. -/
theorem readValue_writeEntries {depth : Nat} {entries : List (Value × Value)} {ps : List Text}
    {r : Text} (hps : writeEntries depth entries = .ok ps)
    (h : entries ≠ [] → ∀ count, ps.length ≤ count → readMembers (readValue depth) count
      (commaSeparated ps ++ CodePoint.ofChar '\x7d' :: r)
        = .ok (namedEntries (Value.canonicalEntries entries), r)) :
    readValue (depth + 1) (braced ps ++ r)
      = .ok (.dict (namedEntries (lastOfEach (Value.canonicalEntries entries))), r) := by
  rw [← dictOf_named]
  cases entries with
  | nil =>
    cases hps
    exact readValue_braced_nil depth r
  | cons e rest =>
    have hlen := length_le_commaSeparated (length_pos_of_mem_writeEntries hps)
    obtain ⟨key, t, ts, -, -, -, rfl⟩ := writeEntries_cons_eq_ok hps
    exact readValue_braced (exists_quote_commaSeparated key t ts) hlen
      (h (List.cons_ne_nil e rest))

/-! ## Documents -/

mutual

/-- What is written is read back as its canonical form. -/
theorem readValue_writeValue : (v : Value) → ∀ {depth : Nat} {t r : Text},
    writeValue depth v = .ok t → EndsNumber r →
      readValue depth (t ++ r) = .ok (v.canonical, r)
  | .null, depth, t, r, h, _ => by
    cases h
    have hb : BeginsAtom (Text.ofString "null") := ⟨_, _, rfl, rfl⟩
    rw [readValue_atom (hb.append r)]
    rfl
  | .bool b, depth, t, r, h, _ => by
    cases h
    exact readValue_writeBool depth b r
  | .int n, depth, t, r, h, hr => by
    rw [writeValue] at h
    obtain ⟨hn, rfl⟩ := writeInt_eq_ok h
    rw [readValue_atom ((beginsAtom_ofInt n).append r), readAtom_ofInt hn hr]
    rfl
  | .float x, depth, t, r, h, hr => by
    rw [writeValue] at h
    obtain ⟨hx, rfl⟩ := writeBinary64_eq_ok h
    rw [readValue_atom ((beginsAtom_text hx).append r), readAtom_text hx hr]
    rfl
  | .text s, depth, t, r, h, _ => by
    cases h
    exact readValue_writeString depth s r
  | .list items, depth, t, r, h, _ => by
    rw [writeValue] at h
    obtain ⟨hd, ps, hps, rfl⟩ := writeContainer_eq_ok h
    obtain ⟨d, rfl⟩ : ∃ d, depth = d + 1 := ⟨depth - 1, by omega⟩
    rw [Value.canonical]
    exact readValue_writeItems hps fun hne _ hc => readItems_writeItems items hps hne hc
  | .tuple items, depth, t, r, h, _ => by
    rw [writeValue] at h
    obtain ⟨hd, ps, hps, rfl⟩ := writeContainer_eq_ok h
    obtain ⟨d, rfl⟩ : ∃ d, depth = d + 1 := ⟨depth - 1, by omega⟩
    rw [Value.canonical]
    exact readValue_writeItems hps fun hne _ hc => readItems_writeItems items hps hne hc
  | .dict entries, depth, t, r, h, _ => by
    rw [writeValue] at h
    obtain ⟨hd, ps, hps, rfl⟩ := writeContainer_eq_ok h
    obtain ⟨d, rfl⟩ : ∃ d, depth = d + 1 := ⟨depth - 1, by omega⟩
    rw [Value.canonical]
    exact readValue_writeEntries hps fun hne _ hc => readMembers_writeEntries entries hps hne hc
  | .bytes _, _, _, _, h, _ => by rw [writeValue] at h; cases h
  | .dateTime _, _, _, _, h, _ => by rw [writeValue] at h; cases h
  | .date _, _, _, _, h, _ => by rw [writeValue] at h; cases h
  | .other _, _, _, _, h, _ => by rw [writeValue] at h; cases h
  | .enclosing _, _, _, _, h, _ => by rw [writeValue] at h; cases h

theorem readItems_writeItems : (items : List Value) → ∀ {depth : Nat} {ps : List Text} {r : Text}
    {count : Nat}, writeItems depth items = .ok ps → items ≠ [] → ps.length ≤ count →
      readItems (readValue depth) count (commaSeparated ps ++ CodePoint.ofChar ']' :: r)
        = .ok (Value.canonicalItems items, r)
  | [], _, _, _, _, _, hne, _ => absurd rfl hne
  | v :: rest, depth, ps, r, count, h, _, hc => by
    have hv := @readValue_writeValue v depth
    have ih := @readItems_writeItems rest depth
    obtain ⟨t, ts, ht, hts, rfl⟩ := writeItems_cons_eq_ok h
    obtain ⟨n, rfl⟩ : ∃ n, count = n + 1 := ⟨count - 1, by rw [List.length_cons] at hc; omega⟩
    rw [Value.canonicalItems]
    cases rest with
    | nil =>
      cases hts
      rw [commaSeparated_singleton]
      exact readItems_last (hv ht (endsNumber_mark (.inr (.inl rfl))))
    | cons w rest =>
      obtain ⟨u, us, hu, -, rfl⟩ := writeItems_cons_eq_ok hts
      rw [commaSeparated_cons_cons_append]
      refine readItems_comma (hv ht (endsNumber_mark (.inl rfl)))
        ((beginsValue_commaSeparated (beginsValue_writeValue hu) us).append _)
        (ih hts (List.cons_ne_nil w rest) ?_)
      exact Nat.le_of_succ_le_succ hc

theorem readMembers_writeEntries : (entries : List (Value × Value)) → ∀ {depth : Nat}
    {ps : List Text} {r : Text} {count : Nat}, writeEntries depth entries = .ok ps →
      entries ≠ [] → ps.length ≤ count →
      readMembers (readValue depth) count (commaSeparated ps ++ CodePoint.ofChar '\x7d' :: r)
        = .ok (namedEntries (Value.canonicalEntries entries), r)
  | [], _, _, _, _, _, hne, _ => absurd rfl hne
  | (k, v) :: rest, depth, ps, r, count, h, _, hc => by
    have hv := @readValue_writeValue v depth
    have ih := @readMembers_writeEntries rest depth
    obtain ⟨key, t, ts, hk, ht, hts, rfl⟩ := writeEntries_cons_eq_ok h
    obtain ⟨n, rfl⟩ : ∃ n, count = n + 1 := ⟨count - 1, by rw [List.length_cons] at hc; omega⟩
    have hname := fun r => readName_member key t r (beginsValue_writeValue ht)
    rw [Value.canonicalEntries, ← joinSurrogates_keyText hk]
    cases rest with
    | nil =>
      cases hts
      rw [commaSeparated_singleton]
      exact readMembers_last (hname _) (hv ht (endsNumber_mark (.inr (.inr rfl))))
    | cons e rest =>
      obtain ⟨key', t', ts', -, -, -, rfl⟩ := writeEntries_cons_eq_ok hts
      obtain ⟨s, hs⟩ := exists_quote_commaSeparated key' t' ts'
      have hb : BeginsValue (commaSeparated
          ((writeString key' ++ Text.ofString ": " ++ t') :: ts')) := ⟨_, s, hs, rfl, rfl⟩
      rw [commaSeparated_cons_cons_append]
      refine readMembers_comma (hname _) (hv ht (endsNumber_mark (.inl rfl))) (hb.append _)
        (ih hts (List.cons_ne_nil e rest) ?_)
      exact Nat.le_of_succ_le_succ hc

end

end Json

end Registry
