import Mathlib.Data.List.Chain
import Registry.Proofs.Json.Given
import Registry.Proofs.Json.Rewriting

/-!
# Values that are read back as they are

Plain values are the only ones that are their own canonical form (`Value.canonical_eq_self_iff`):
joining surrogates makes a text shorter, and so does dropping all but the last value of a name. What
is read from a document without surrogates is plain (`Denotes.plain`), as the surrogates in it are
escaped and those that can be joined have been.
-/

namespace Registry

/-! ## Surrogates -/

theorem Utf16.length_joinSurrogates_le : (t : Text) →
    (Utf16.joinSurrogates t).length ≤ t.length
  | [] => Nat.le_refl _
  | [_] => Nat.le_refl _
  | a :: b :: rest => by
    rw [Utf16.joinSurrogates]
    split
    · exact Nat.succ_le_succ ((length_joinSurrogates_le rest).trans (Nat.le_succ _))
    · exact Nat.succ_le_succ (length_joinSurrogates_le (b :: rest))

theorem Utf16.unpaired_of_joinSurrogates : {t : Text} → Utf16.joinSurrogates t = t → t.Unpaired
  | [], _ => .nil
  | [a], _ => .singleton a
  | a :: b :: rest, h => by
    rw [Utf16.joinSurrogates] at h
    split at h
    · have hlength := congrArg List.length h
      have hle := length_joinSurrogates_le rest
      simp only [List.length_cons] at hlength
      omega
    · next hpair =>
      rw [Bool.not_eq_true] at hpair
      exact .cons_cons hpair (unpaired_of_joinSurrogates (List.cons.inj h).2)

/-! ## Names that stand once -/

theorem length_eraseDups_le (ns : List Text) : ns.eraseDups.length ≤ ns.length := by
  induction ns using List.reverseRecOn with
  | nil => exact Nat.le_refl _
  | append_singleton ns n ih =>
    rw [eraseDups_append_singleton]
    split
    · rw [List.length_append]
      omega
    · rw [List.length_append, List.length_append]
      omega

theorem nodup_of_length_eraseDups {ns : List Text} (h : ns.length ≤ ns.eraseDups.length) :
    ns.Nodup := by
  induction ns using List.reverseRecOn with
  | nil => exact .nil
  | append_singleton ns n ih =>
    have hle := length_eraseDups_le ns
    rw [eraseDups_append_singleton] at h
    split at h
    · rw [List.length_append, List.length_singleton] at h
      omega
    · next hn =>
      rw [List.length_append, List.length_append] at h
      rw [← List.concat_eq_append]
      exact (ih (by omega)).concat hn

/-- Entries of which as many are kept have distinct names. -/
theorem nodup_of_length_lastOfEach {es : List (Text × Value)}
    (h : es.length ≤ (lastOfEach es).length) : (es.map Prod.fst).Nodup := by
  refine nodup_of_length_eraseDups ?_
  rwa [lastOfEach, List.length_map, ← List.length_map Prod.fst] at h

/-! ## Canonical forms -/

namespace Value

theorem length_canonicalEntries (entries : List (Value × Value)) :
    (canonicalEntries entries).length = entries.length := by
  rw [← List.length_map Prod.fst, map_fst_canonicalEntries, List.length_map]

/-- Entries that are kept as they are have distinct texts for keys. -/
theorem entries_of_canonical {entries : List (Value × Value)}
    (h : namedEntries (lastOfEach (canonicalEntries entries)) = entries) :
    namedEntries (canonicalEntries entries) = entries ∧ (entries.map Prod.fst).Nodup := by
  have hlength : (canonicalEntries entries).length
      ≤ (lastOfEach (canonicalEntries entries)).length := by
    have hkept := congrArg List.length h
    rw [namedEntries, List.length_map] at hkept
    rw [length_canonicalEntries, hkept]
  have hnodup := nodup_of_length_lastOfEach hlength
  rw [lastOfEach_eq_self hnodup] at h
  exact ⟨h, h ▸ nodup_namedEntries hnodup⟩

mutual

/-- A value that is its own canonical form is plain. -/
theorem plain_of_canonical : (v : Value) → canonical v = v → Plain v
  | null, _ => trivial
  | bool _, _ => trivial
  | int _, _ => trivial
  | float _, _ => trivial
  | text t, h => by
    rw [canonical] at h
    exact Utf16.unpaired_of_joinSurrogates (text.inj h)
  | bytes _, _ => trivial
  | list items, h => by
    rw [canonical] at h
    rw [Plain]
    exact plainItems_of_canonical items (list.inj h)
  | tuple _, h => by
    rw [canonical] at h
    cases h
  | dict entries, h => by
    rw [canonical] at h
    obtain ⟨hentries, hnodup⟩ := entries_of_canonical (dict.inj h)
    rw [Plain]
    exact ⟨hnodup, plainEntries_of_canonical entries hentries⟩
  | dateTime _, _ => trivial
  | date _, _ => trivial
  | other _, _ => trivial
  | enclosing _, _ => trivial

theorem plainItems_of_canonical : (items : List Value) → canonicalItems items = items →
    PlainItems items
  | [], _ => trivial
  | v :: rest, h => by
    rw [canonicalItems] at h
    obtain ⟨hv, hrest⟩ := List.cons.inj h
    rw [PlainItems]
    exact ⟨plain_of_canonical v hv, plainItems_of_canonical rest hrest⟩

theorem plainEntries_of_canonical : (entries : List (Value × Value)) →
    namedEntries (canonicalEntries entries) = entries → PlainEntries entries
  | [], _ => trivial
  | (k, v) :: rest, h => by
    rw [canonicalEntries, namedEntries, List.map_cons] at h
    obtain ⟨he, hrest⟩ := List.cons.inj h
    obtain ⟨hk, hv⟩ := Prod.mk.inj he
    rw [PlainEntries]
    refine ⟨?_, plain_of_canonical v hv, plainEntries_of_canonical rest hrest⟩
    obtain ⟨t, rfl⟩ : ∃ t, k = text t := ⟨_, hk.symm⟩
    exact Utf16.unpaired_of_joinSurrogates (text.inj hk)

end

/-- The plain values are those that are their own canonical form. -/
theorem canonical_eq_self_iff {v : Value} : v.canonical = v ↔ v.Plain :=
  ⟨plain_of_canonical v, canonical_eq_self v⟩

end Value

/-! ## What documents without surrogates denote -/

namespace Value

theorem plainEntries_of_forall {es : List (Text × Value)}
    (h : ∀ e ∈ es, e.1.Unpaired ∧ e.2.Plain) : PlainEntries (namedEntries es) := by
  induction es with
  | nil => exact trivial
  | cons e es ih =>
    rw [List.forall_mem_cons] at h
    exact ⟨h.1.1, h.1.2, ih h.2⟩

end Value

namespace Json

/-- What is escaped by one character is no surrogate. -/
theorem isSurrogate_of_unescape? {e c : CodePoint} (h : unescape? e = some c) :
    c.isSurrogate = false := by
  have hascii : c.val < 0x80 := by
    unfold unescape? at h
    split at h
    · next he =>
      cases h
      rcases he with he | he | he <;>
      · rw [CodePoint.eq_ofChar_of_is he]
        decide
    · repeat' split at h
      all_goals
        cases h
        try decide
  rw [← Bool.not_eq_true, CodePoint.isSurrogate_iff]
  omega

theorem isLowSurrogate_of_isSurrogate {c : CodePoint} (h : c.isSurrogate = false) :
    c.isLowSurrogate = false := by
  rw [← Bool.not_eq_true] at h ⊢
  exact fun hlow => h (isSurrogate_of_isLowSurrogate hlow)

theorem isHighSurrogate_of_isSurrogate {c : CodePoint} (h : c.isSurrogate = false) :
    c.isHighSurrogate = false := by
  rw [← Bool.not_eq_true] at h ⊢
  exact fun hhigh => h (isSurrogate_of_isHighSurrogate hhigh)

theorem isSurrogate_ofSurrogates {p q : CodePoint} (hp : p.isHighSurrogate = true)
    (hq : q.isLowSurrogate = true) : (CodePoint.ofSurrogates p q).isSurrogate = false := by
  simp only [CodePoint.isHighSurrogate, CodePoint.isLowSurrogate, Bool.and_eq_true,
    decide_eq_true_eq] at hp hq
  have hval : (CodePoint.ofSurrogates p q).val
      = 0x10000 + (p.val - 0xD800) * 0x400 + (q.val - 0xDC00) := CodePoint.val_ofNat (by omega)
  rw [← Bool.not_eq_true, CodePoint.isSurrogate_iff]
  omega

/-- A second half that a string begins with was escaped. -/
theorem Spells.beginsLowHalf {s x : Text} (h : Spells s x) (hs : Text.NoSurrogates s) :
    ∀ c ∈ x.head?, c.isLowSurrogate = true → BeginsLowHalf s := by
  intro c hc hlow
  have hne (hsurrogate : c.isSurrogate = false) : BeginsLowHalf s := by
    rw [isLowSurrogate_of_isSurrogate hsurrogate] at hlow
    cases hlow
  cases h with
  | nil => cases hc
  | plain =>
    cases hc
    exact hne (hs c List.mem_cons_self)
  | escaped he =>
    cases hc
    exact hne (isSurrogate_of_unescape? he)
  | numbered hn =>
    cases hc
    exact ⟨_, c, _, rfl, hn, hlow⟩
  | paired hn hm hhigh hlow' =>
    obtain rfl := Option.some.inj hc
    exact hne (isSurrogate_ofSurrogates hhigh hlow')

/-- A string that is spelled without surrogates has none to join. -/
theorem Spells.unpaired {s x : Text} (h : Spells s x) (hs : Text.NoSurrogates s) :
    x.Unpaired := by
  have hcons {c : CodePoint} {x : Text} (hc : c.isSurrogate = false) (hx : x.Unpaired) :
      Text.Unpaired (c :: x) := by
    refine List.isChain_cons.mpr ⟨fun d _ => ?_, hx⟩
    rw [isHighSurrogate_of_isSurrogate hc, Bool.false_and]
  induction h with
  | nil => exact .nil
  | plain _ _ _ _ ih =>
    rw [Text.NoSurrogates, List.forall_mem_cons] at hs
    exact hcons hs.1 (ih hs.2)
  | escaped he _ ih =>
    rw [Text.NoSurrogates, List.forall_mem_cons, List.forall_mem_cons] at hs
    exact hcons (isSurrogate_of_unescape? he) (ih hs.2.2)
  | @numbered n s x p hn halone h ih =>
    rw [Text.NoSurrogates, List.forall_mem_append] at hs
    refine List.isChain_cons.mpr ⟨fun d hd => ?_, ih hs.2⟩
    cases hhigh : p.isHighSurrogate with
    | false => exact Bool.false_and _
    | true =>
      rw [Bool.true_and, ← Bool.not_eq_true]
      exact fun hlow => halone hhigh (h.beginsLowHalf hs.2 d hd hlow)
  | paired _ _ hhigh hlow _ ih =>
    rw [Text.NoSurrogates, List.forall_mem_append, List.forall_mem_append] at hs
    exact hcons (isSurrogate_ofSurrogates hhigh hlow) (ih hs.2.2)

theorem Names.unpaired {n name : Text} (h : Names n name) (hn : Text.NoSurrogates n) :
    name.Unpaired := by
  obtain ⟨-, hs, -⟩ := h
  rw [Text.NoSurrogates, List.forall_mem_append, List.forall_mem_cons, List.forall_mem_append] at hn
  exact hs.unpaired hn.2.2.1

mutual

/-- What is denoted without surrogates is plain. -/
theorem Denotes.plain {digits : Nat} : {s : Text} → {v : Value} → Denotes digits s v →
    Text.NoSurrogates s → v.Plain
  | _, _, .null, _ => trivial
  | _, _, .true, _ => trivial
  | _, _, .false, _ => trivial
  | _, _, .nan, _ => trivial
  | _, _, .infinity, _ => trivial
  | _, _, .minusInfinity, _ => trivial
  | _, _, .integer _ _, _ => trivial
  | _, _, .real _ _ _ _, _ => trivial
  | _, _, .string hs, h => by
    rw [Text.NoSurrogates, List.forall_mem_cons, List.forall_mem_append] at h
    rw [Value.Plain]
    exact hs.unpaired h.2.1
  | _, _, .emptyArray _, _ => trivial
  | _, _, .array hs, h => by
    rw [Text.NoSurrogates, List.forall_mem_cons, List.forall_mem_append] at h
    rw [Value.Plain]
    exact hs.plain h.2.1
  | _, _, .emptyObject _, _ => ⟨.nil, trivial⟩
  | _, _, @Denotes.object _ _ es hs, h => by
    rw [Text.NoSurrogates, List.forall_mem_cons, List.forall_mem_append] at h
    have hes := hs.plain h.2.1
    rw [Value.Plain]
    exact ⟨nodup_namedEntries (nodup_names_lastOfEach es),
      Value.plainEntries_of_forall fun e he => hes e (mem_of_mem_lastOfEach he)⟩

theorem Document.plain {digits : Nat} : {s : Text} → {v : Value} → Document digits s v →
    Text.NoSurrogates s → v.Plain
  | _, _, .intro _ hs _, h => by
    rw [Text.NoSurrogates, List.forall_mem_append, List.forall_mem_append] at h
    exact hs.plain h.2.1

theorem Items.plain {digits : Nat} : {s : Text} → {vs : List Value} → Items digits s vs →
    Text.NoSurrogates s → Value.PlainItems vs
  | _, _, .one hs, h => ⟨hs.plain h, trivial⟩
  | _, _, .more hs ht, h => by
    rw [Text.NoSurrogates, List.forall_mem_append, List.forall_mem_cons] at h
    exact ⟨hs.plain h.1, ht.plain h.2.2⟩

theorem Members.plain {digits : Nat} : {s : Text} → {es : List (Text × Value)} →
    Members digits s es → Text.NoSurrogates s → ∀ e ∈ es, e.1.Unpaired ∧ e.2.Plain
  | _, _, .one hn hs, h => by
    rw [Text.NoSurrogates, List.forall_mem_append, List.forall_mem_cons] at h
    exact List.forall_mem_singleton.mpr ⟨hn.unpaired h.1, hs.plain h.2.2⟩
  | _, _, .more hn hs ht, h => by
    rw [Text.NoSurrogates, List.forall_mem_append, List.forall_mem_cons, List.forall_mem_append,
      List.forall_mem_cons] at h
    exact List.forall_mem_cons.mpr ⟨⟨hn.unpaired h.1, hs.plain h.2.2.1⟩, ht.plain h.2.2.2.2⟩

end

end Json

end Registry
