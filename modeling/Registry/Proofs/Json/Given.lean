import Registry.Proofs.Json.Complete
import Registry.Proofs.Json.Writable

/-!
# What documents give

A value that is read has integers of bounded length, lists and mappings of bounded depth and names
for keys (`readAll_given`), so all that can keep it from being written again is a number that is not
finite (`writeValue_given`): reading takes such numbers, by their literals or by a magnitude beyond
all others, and writing does not.
-/

namespace Registry

namespace Value

mutual

/-- The value can be given by a document with at most `levels` levels of containers. -/
def Given (levels : Nat) : Value → Prop
  | null => True
  | bool _ => True
  | int n => (Nat.toDigits 10 n.natAbs).length ≤ Json.integerDigitLimit
  | float _ => True
  | text _ => True
  | list items => 0 < levels ∧ GivenItems (levels - 1) items
  | dict entries => 0 < levels ∧ (entries.map Prod.fst).Nodup ∧ GivenEntries (levels - 1) entries
  | _ => False

def GivenItems (levels : Nat) : List Value → Prop
  | [] => True
  | v :: rest => Given levels v ∧ GivenItems levels rest

/-- All keys of entries are texts, and all values can be given by documents. -/
def GivenEntries (levels : Nat) : List (Value × Value) → Prop
  | [] => True
  | (k, v) :: rest => (∃ t, k = text t) ∧ Given levels v ∧ GivenEntries levels rest

end

mutual

/-- All numbers in the value are finite. -/
def AllFinite : Value → Prop
  | float x => x.isFinite = true
  | list items => AllFiniteItems items
  | tuple items => AllFiniteItems items
  | dict entries => AllFiniteEntries entries
  | _ => True

def AllFiniteItems : List Value → Prop
  | [] => True
  | v :: rest => AllFinite v ∧ AllFiniteItems rest

/-- All numbers in the keys and values of the entries are finite. -/
def AllFiniteEntries : List (Value × Value) → Prop
  | [] => True
  | (k, v) :: rest => AllFinite k ∧ AllFinite v ∧ AllFiniteEntries rest

end

theorem givenItems_of_forall {levels : Nat} {vs : List Value} (h : ∀ v ∈ vs, v.Given levels) :
    GivenItems levels vs := by
  induction vs with
  | nil => exact trivial
  | cons v vs ih =>
    rw [List.forall_mem_cons] at h
    exact ⟨h.1, ih h.2⟩

theorem givenEntries_of_forall {levels : Nat} {es : List (Text × Value)}
    (h : ∀ e ∈ es, e.2.Given levels) : GivenEntries levels (namedEntries es) := by
  induction es with
  | nil => exact trivial
  | cons e es ih =>
    rw [List.forall_mem_cons] at h
    exact ⟨⟨e.1, rfl⟩, h.1, ih h.2⟩

/-- What has texts for keys is named entries. -/
theorem GivenEntries.exists_named {levels : Nat} {entries : List (Value × Value)}
    (h : GivenEntries levels entries) : ∃ es, entries = namedEntries es := by
  induction entries with
  | nil => exact ⟨[], rfl⟩
  | cons e rest ih =>
    obtain ⟨k, v⟩ := e
    rw [GivenEntries] at h
    obtain ⟨⟨t, rfl⟩, -, hrest⟩ := h
    obtain ⟨es, rfl⟩ := ih hrest
    exact ⟨(t, v) :: es, rfl⟩

end Value

/-! ## Named entries -/

theorem nodup_namedEntries {es : List (Text × Value)} (h : (es.map Prod.fst).Nodup) :
    ((namedEntries es).map Prod.fst).Nodup := by
  have hmap : (namedEntries es).map Prod.fst = (es.map Prod.fst).map Value.text := by
    rw [namedEntries, List.map_map, List.map_map]
    rfl
  rw [hmap]
  exact h.map fun _ _ heq => Value.text.inj heq

theorem lastValue_mem {es : List (Text × Value)} {name : Text} (h : name ∈ es.map Prod.fst) :
    (name, lastValue es name) ∈ es := by
  induction es using List.reverseRecOn with
  | nil => cases h
  | append_singleton es e ih =>
    obtain ⟨n, v⟩ := e
    rw [lastValue_append_singleton]
    split
    · next hn =>
      subst hn
      simp
    · next hn =>
      have hmem : name ∈ es.map Prod.fst := by simpa [Ne.symm hn] using h
      exact List.mem_append_left _ (ih hmem)

/-- An entry that is kept is one of the entries. -/
theorem mem_of_mem_lastOfEach {es : List (Text × Value)} {e : Text × Value}
    (h : e ∈ lastOfEach es) : e ∈ es := by
  obtain ⟨name, hname, rfl⟩ := List.mem_map.mp h
  exact lastValue_mem (List.mem_eraseDups.mp hname)

namespace Json

/-! ## Reading -/

section

variable {value : Text → Step Value} {P : Value → Prop}

theorem forall_of_readItems (hvalue : ∀ {t r v}, value t = .ok (v, r) → P v) {count : Nat}
    {t r : Text} {vs : List Value} (h : readItems value count t = .ok (vs, r)) :
    ∀ v ∈ vs, P v := by
  induction count generalizing t vs with
  | zero => cases h
  | succ count ih =>
    obtain ⟨v, left, hread, ⟨-, rfl⟩ | ⟨rest, ws, -, hitems, rfl⟩⟩ := readItems_succ_eq_ok.mp h
    · exact List.forall_mem_singleton.mpr (hvalue hread)
    · exact List.forall_mem_cons.mpr ⟨hvalue hread, ih hitems⟩

theorem forall_of_readMembers (hvalue : ∀ {t r v}, value t = .ok (v, r) → P v) {count : Nat}
    {t r : Text} {ms : List (Value × Value)} (h : readMembers value count t = .ok (ms, r)) :
    ∃ es, ms = namedEntries es ∧ ∀ e ∈ es, P e.2 := by
  induction count generalizing t ms with
  | zero => cases h
  | succ count ih =>
    obtain ⟨name, s, v, left, -, hread, ⟨-, rfl⟩ | ⟨rest, ns, -, hmembers, rfl⟩⟩ :=
      readMembers_succ_eq_ok.mp h
    · exact ⟨[(name, v)], rfl, List.forall_mem_singleton.mpr (hvalue hread)⟩
    · obtain ⟨es, rfl, hes⟩ := ih hmembers
      exact ⟨(name, v) :: es, rfl, List.forall_mem_cons.mpr ⟨hvalue hread, hes⟩⟩

end

/-- Digits of bounded number have a value with as few digits. -/
theorem length_toDigits_le {w : Text} (hw : Text.AllDigits w) {digits : Nat} (hpos : 0 < digits)
    (h : w.length ≤ digits) : (Nat.toDigits 10 (Text.digitsValue w)).length ≤ digits := by
  rw [← Text.length_ofNat, Text.length_ofNat_le_iff hpos]
  exact Nat.lt_of_lt_of_le (Text.digitsValue_lt hw) (Nat.pow_le_pow_right (by decide) h)

theorem Number.value_given {n : Number} {v : Value} {levels : Nat} (hw : IsWhole n.whole)
    (h : n.value = .ok v) : v.Given levels := by
  obtain ⟨negative, w, f, e⟩ := n
  rw [Number.value] at h
  split at h
  · split at h
    · cases h
    · next hlen =>
      cases h
      have hlength := length_toDigits_le hw.allDigits (by decide) (Nat.le_of_not_lt hlen)
      cases negative with
      | true =>
        show (Nat.toDigits 10 (-(Text.digitsValue w : Int)).natAbs).length ≤ integerDigitLimit
        rwa [Int.natAbs_neg]
      | false => exact hlength
  · cases h
    trivial

theorem given_of_mem_literals {w : Text} {v : Value} {levels : Nat} (h : (w, v) ∈ literals) :
    v.Given levels := by
  simp only [literals, List.mem_cons, List.not_mem_nil, or_false, Prod.mk.injEq] at h
  obtain ⟨-, rfl⟩ | ⟨-, rfl⟩ | ⟨-, rfl⟩ | ⟨-, rfl⟩ | ⟨-, rfl⟩ | ⟨-, rfl⟩ := h <;> trivial

theorem given_of_readAtom {t r : Text} {v : Value} {levels : Nat} (h : readAtom t = .ok (v, r)) :
    v.Given levels := by
  rcases readAtom_eq_ok h with hliteral | ⟨n, hnumber, hvalue⟩
  · obtain ⟨w, hw, -⟩ := takeLiteral?_eq_some hliteral
    exact given_of_mem_literals hw
  · obtain ⟨x, -, hw, -⟩ := takeNumber?_eq_some hnumber
    exact Number.value_given hw hvalue

section

variable {value : Text → Step Value} {levels : Nat}
  (hvalue : ∀ {t r v}, value t = .ok (v, r) → v.Given levels) {t r : Text} {v : Value}

include hvalue

theorem given_of_readArray (h : readArray value t = .ok (v, r)) : v.Given (levels + 1) := by
  rcases begins_or_not ']' (skipBlanks t) with ⟨rest, hclose⟩ | hopen
  · rw [readArray_closed hclose] at h
    cases h
    exact ⟨Nat.succ_pos _, trivial⟩
  · rw [readArray_eq_readItems hopen, map_eq_ok] at h
    obtain ⟨⟨vs, left⟩, hitems, heq⟩ := h
    cases heq
    exact ⟨Nat.succ_pos _, Value.givenItems_of_forall (forall_of_readItems hvalue hitems)⟩

theorem given_of_readObject (h : readObject value t = .ok (v, r)) : v.Given (levels + 1) := by
  rcases begins_or_not '\x7d' (skipBlanks t) with ⟨rest, hclose⟩ | hopen
  · rw [readObject_closed hclose] at h
    cases h
    exact ⟨Nat.succ_pos _, .nil, trivial⟩
  · rw [readObject_eq_readMembers hopen, map_eq_ok] at h
    obtain ⟨⟨ms, left⟩, hmembers, heq⟩ := h
    cases heq
    obtain ⟨es, rfl, hes⟩ := forall_of_readMembers hvalue hmembers
    rw [dictOf_named]
    exact ⟨Nat.succ_pos _, nodup_namedEntries (nodup_names_lastOfEach es),
      Value.givenEntries_of_forall fun e he => hes e (mem_of_mem_lastOfEach he)⟩

end

/-- What is read with a limit of levels has at most so many. -/
theorem given_of_readValue {levels : Nat} {t r : Text} {v : Value}
    (h : readValue levels t = .ok (v, r)) : v.Given levels := by
  cases Beginning.of t with
  | nothing =>
    rw [readValue_nil] at h
    cases h
  | string t =>
    rw [readValue_quote, map_eq_ok] at h
    obtain ⟨⟨x, left⟩, -, heq⟩ := h
    cases heq
    trivial
  | object t =>
    cases levels with
    | zero => cases h
    | succ levels => exact given_of_readObject given_of_readValue h
  | array t =>
    cases levels with
    | zero => cases h
    | succ levels => exact given_of_readArray given_of_readValue h
  | atom t hquote hbrace hbracket =>
    rw [readValue_plain levels t hquote hbrace hbracket] at h
    exact given_of_readAtom h

theorem readAll_given {t : Text} {v : Value} (h : readAll t = .ok v) : v.Given nestingLimit := by
  obtain ⟨left, hread, -⟩ := readAll_eq_ok.mp h
  exact given_of_readValue hread

/-! ## Writing -/

mutual

/-- What is given by a document is written if its numbers are finite, and otherwise it is not, as a
number is out of range. -/
theorem writeValue_given : (v : Value) → ∀ {levels depth : Nat}, v.Given levels → levels ≤ depth →
    v.AllFinite ∧ (∃ t, writeValue depth v = .ok t)
      ∨ ¬v.AllFinite ∧ writeValue depth v = .error .outOfRange
  | .null, _, _, _, _ => .inl ⟨trivial, _, rfl⟩
  | .bool _, _, _, _, _ => .inl ⟨trivial, _, rfl⟩
  | .int n, _, _, h, _ => by
    rw [Value.Given] at h
    exact .inl ⟨trivial, _, writeInt_of_length_le h⟩
  | .float x, _, _, _, _ => by
    rw [Value.AllFinite, writeValue, writeBinary64]
    cases x.isFinite with
    | true => exact .inl ⟨rfl, _, rfl⟩
    | false => exact .inr ⟨Bool.false_ne_true, rfl⟩
  | .text _, _, _, _, _ => .inl ⟨trivial, _, rfl⟩
  | .list items, levels, depth, h, hd => by
    rw [Value.Given] at h
    rw [Value.AllFinite, writeValue, if_neg (by omega)]
    rcases writeItems_given items h.2 (show levels - 1 ≤ depth - 1 by omega) with
      ⟨hfinite, ps, hps⟩ | ⟨hfinite, hps⟩
    · exact .inl ⟨hfinite, _, by rw [hps]; rfl⟩
    · exact .inr ⟨hfinite, by rw [hps]; rfl⟩
  | .dict entries, levels, depth, h, hd => by
    rw [Value.Given] at h
    rw [Value.AllFinite, writeValue, if_neg (by omega)]
    rcases writeEntries_given entries h.2.2 (show levels - 1 ≤ depth - 1 by omega) with
      ⟨hfinite, ps, hps⟩ | ⟨hfinite, hps⟩
    · exact .inl ⟨hfinite, _, by rw [hps]; rfl⟩
    · exact .inr ⟨hfinite, by rw [hps]; rfl⟩
  | .tuple _, _, _, h, _ => False.elim h
  | .bytes _, _, _, h, _ => False.elim h
  | .dateTime _, _, _, h, _ => False.elim h
  | .date _, _, _, h, _ => False.elim h
  | .other _, _, _, h, _ => False.elim h
  | .enclosing _, _, _, h, _ => False.elim h

theorem writeItems_given : (items : List Value) → ∀ {levels depth : Nat},
    Value.GivenItems levels items → levels ≤ depth →
      Value.AllFiniteItems items ∧ (∃ ps, writeItems depth items = .ok ps)
        ∨ ¬Value.AllFiniteItems items ∧ writeItems depth items = .error .outOfRange
  | [], _, _, _, _ => .inl ⟨trivial, _, rfl⟩
  | v :: rest, _, _, h, hd => by
    rw [Value.GivenItems] at h
    rw [Value.AllFiniteItems, writeItems]
    rcases writeValue_given v h.1 hd with ⟨hv, t, ht⟩ | ⟨hv, ht⟩
    · rcases writeItems_given rest h.2 hd with ⟨hrest, ps, hps⟩ | ⟨hrest, hps⟩
      · exact .inl ⟨⟨hv, hrest⟩, _, by rw [ht, hps]; rfl⟩
      · exact .inr ⟨fun hall => hrest hall.2, by rw [ht, hps]; rfl⟩
    · exact .inr ⟨fun hall => hv hall.1, by rw [ht]⟩

theorem writeEntries_given : (entries : List (Value × Value)) → ∀ {levels depth : Nat},
    Value.GivenEntries levels entries → levels ≤ depth →
      Value.AllFiniteEntries entries ∧ (∃ ps, writeEntries depth entries = .ok ps)
        ∨ ¬Value.AllFiniteEntries entries ∧ writeEntries depth entries = .error .outOfRange
  | [], _, _, _, _ => .inl ⟨trivial, _, rfl⟩
  | (k, v) :: rest, _, _, h, hd => by
    rw [Value.GivenEntries] at h
    obtain ⟨⟨name, rfl⟩, hv, hrest⟩ := h
    rw [Value.AllFiniteEntries, writeEntries]
    rcases writeValue_given v hv hd with ⟨hv, t, ht⟩ | ⟨hv, ht⟩
    · rcases writeEntries_given rest hrest hd with ⟨hrest, ps, hps⟩ | ⟨hrest, hps⟩
      · exact .inl ⟨⟨trivial, hv, hrest⟩, _, by simp only [keyText, ht, hps]; rfl⟩
      · exact .inr ⟨fun hall => hrest hall.2.2, by simp only [keyText, ht, hps]; rfl⟩
    · exact .inr ⟨fun hall => hv hall.2.1, by simp only [keyText, ht]⟩

end

end Json

end Registry
