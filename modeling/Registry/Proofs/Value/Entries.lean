import Mathlib.Data.List.Induction
import Registry.Proofs.Value.Keys

/-!
# Entries of mappings

What is put under a key is found under every key that is the same (`lookup?_put`), and a key has a
value exactly if an entry has the same key (`lookup?_eq_none_iff`). A text is the same key as itself
and as nothing else, so what stands under a name in a mapping is the value of the last of the entries
of this name of which it was made (`lookup?_foldl_put`), and its keys are texts exactly if theirs are
(`hasNames_foldl_put`).
-/

namespace Registry.Value

/-! ## Looking up and putting -/

section

variable {k l : Value} {es fs : List (Value × Value)}

def hasKey (es : List (Value × Value)) (k : Value) : Bool := es.any fun e => e.1.sameKey k

/-- No two entries have the same key. -/
def KeysApart (es : List (Value × Value)) : Prop := es.Pairwise fun e f => e.1.sameKey f.1 = false

instance : DecidablePred KeysApart := fun es =>
  inferInstanceAs (Decidable (es.Pairwise fun e f => e.1.sameKey f.1 = false))

theorem hasKey_iff : hasKey es k = true ↔ ∃ e ∈ es, e.1.sameKey k = true := List.any_eq_true

theorem hasKey_eq_false_iff : hasKey es k = false ↔ ∀ e ∈ es, e.1.sameKey k = false := by
  simp [hasKey]

theorem hasKey_singleton (e : Value × Value) : hasKey [e] k = e.1.sameKey k := Bool.or_false _

theorem hasKey_append : hasKey (es ++ fs) k = (hasKey es k || hasKey fs k) := List.any_append

/-- The same keys are had by the same mappings. -/
theorem hasKey_congr (h : sameKey k l = true) (es : List (Value × Value)) :
    hasKey es k = hasKey es l := by
  unfold hasKey
  simp only [sameKey_comm _ k, sameKey_comm _ l, sameKey_congr h]

theorem keysApart_cons_iff {e : Value × Value} :
    KeysApart (e :: es) ↔ hasKey es e.1 = false ∧ KeysApart es := by
  rw [KeysApart, List.pairwise_cons, hasKey_eq_false_iff]
  simp only [sameKey_comm e.1]
  rfl

theorem keysApart_append_iff :
    KeysApart (es ++ fs) ↔ KeysApart es ∧ KeysApart fs ∧ ∀ f ∈ fs, hasKey es f.1 = false := by
  simp only [hasKey_eq_false_iff]
  exact List.pairwise_append.trans (and_congr_right fun _ => and_congr_right fun _ =>
    ⟨fun h f hf e he => h e he f hf, fun h e he f hf => h f hf e he⟩)

theorem lookup?_cons (e : Value × Value) (es : List (Value × Value)) (k : Value) :
    lookup? k (e :: es) = if e.1.sameKey k then some e.2 else lookup? k es := rfl

theorem lookup?_eq_none_iff : lookup? k es = none ↔ hasKey es k = false := by
  induction es with
  | nil => simp [lookup?, hasKey]
  | cons e rest ih =>
    rw [lookup?_cons, hasKey, List.any_cons, Bool.or_eq_false_iff, ← hasKey, ← ih]
    split <;> simp_all

/-- The same keys have the same values. -/
theorem lookup?_congr (h : sameKey k l = true) (es : List (Value × Value)) :
    lookup? k es = lookup? l es := by
  induction es with
  | nil => rfl
  | cons e rest ih =>
    rw [lookup?_cons, lookup?_cons, ih, sameKey_comm _ k, sameKey_comm _ l, sameKey_congr h]

theorem exists_mem_of_lookup? {v : Value} (h : lookup? k es = some v) :
    ∃ l, (l, v) ∈ es ∧ l.sameKey k = true := by
  induction es with
  | nil => cases h
  | cons e rest ih =>
    rw [lookup?_cons] at h
    split at h
    · next hsame =>
      obtain rfl := Option.some.inj h
      exact ⟨e.1, List.mem_cons_self, hsame⟩
    · obtain ⟨l, hl, hsame⟩ := ih h
      exact ⟨l, List.mem_cons_of_mem e hl, hsame⟩

/-- Where keys are apart, what stands in an entry is the value of its key. -/
theorem lookup?_of_mem {e : Value × Value} (h : KeysApart es) (he : e ∈ es)
    (hsame : e.1.sameKey k = true) : lookup? k es = some e.2 := by
  induction es with
  | nil => cases he
  | cons f rest ih =>
    rw [keysApart_cons_iff] at h
    rw [lookup?_cons]
    rcases List.mem_cons.mp he with rfl | he
    · rw [if_pos hsame]
    · have hf : f.1.sameKey k = false := by
        rw [← sameKey_comm k, ← sameKey_congr hsame]
        exact hasKey_eq_false_iff.mp h.1 e he
      rw [hf, if_neg Bool.false_ne_true, ih h.2 he]

/-- What is put under a key is the value of every key that is the same. -/
theorem lookup?_put (es : List (Value × Value)) (k l v : Value) :
    lookup? l (put es k v) = if k.sameKey l then some v else lookup? l es := by
  induction es with
  | nil => rfl
  | cons e rest ih =>
    rw [put]
    split
    · next hsame =>
      rw [lookup?_cons, lookup?_cons]
      simp only [sameKey_congr hsame]
      split <;> rfl
    · next hother =>
      rw [lookup?_cons, lookup?_cons, ih]
      split
      · next hl =>
        have hk : ¬k.sameKey l = true := fun hk => hother (sameKey_trans _ hl (sameKey_symm k hk))
        rw [if_neg hk]
      · rfl

end

/-! ## Names -/

/-- A text is the same key as itself and as nothing else. -/
theorem sameKey_text_iff {k : Value} {n : Text} : k.sameKey (.text n) = true ↔ k = .text n := by
  cases k with
  | float x => cases h : x.toInt? <;> simp [sameKey, keyInt?, h]
  | _ => simp [sameKey, keyInt?]

theorem lookup?_cons_text (k v : Value) (rest : List (Value × Value)) (n : Text) :
    lookup? (.text n) ((k, v) :: rest)
      = if k = .text n then some v else lookup? (.text n) rest := by
  rw [lookup?]
  simp only [sameKey_text_iff]

theorem sameKey_of_text {k : Value} {n : Text} (h : sameKey (.text n) k = true) :
    k = .text n := by
  cases k with
  | float x => cases hx : x.toInt? <;> simp [sameKey, keyInt?, hx] at h
  | text m =>
    simp only [sameKey, keyInt?, beq_iff_eq] at h
    exact h.symm
  | _ => simp [sameKey, keyInt?] at h

/-- Under a name stands the value of its last entry. -/
theorem lookup?_foldl_put (entries : List (Value × Value)) (n : Text) :
    lookup? (.text n) (entries.foldl (fun done (k, v) => put done k v) [])
      = (entries.reverse.find? fun e => e.1 = .text n).map Prod.snd := by
  induction entries using List.reverseRecOn with
  | nil => rfl
  | append_singleton entries e ih =>
    obtain ⟨k, v⟩ := e
    rw [List.foldl_append, List.reverse_append]
    show lookup? (.text n) (put _ k v) = (List.find? _ ((k, v) :: entries.reverse)).map Prod.snd
    rw [lookup?_put, List.find?_cons]
    simp only [sameKey_text_iff]
    by_cases hk : k = .text n
    · simp [hk]
    · simp [hk, ih]

/-- All keys are texts. -/
def HasNames (entries : List (Value × Value)) : Prop := ∀ e ∈ entries, ∃ n, e.1 = .text n

/-- Names that are all different are keys apart. -/
theorem keysApart_of_nodup {es : List (Value × Value)} (hnames : HasNames es)
    (hdistinct : (es.map Prod.fst).Nodup) : KeysApart es := by
  rw [List.Nodup, List.pairwise_map] at hdistinct
  refine hdistinct.imp_of_mem fun {e f} _ hf hne => ?_
  obtain ⟨n, hn⟩ := hnames f hf
  rw [hn] at hne ⊢
  exact Bool.eq_false_iff.mpr (mt sameKey_text_iff.mp hne)

theorem hasNames_put {es : List (Value × Value)} {k v : Value} :
    HasNames (put es k v) ↔ HasNames es ∧ ∃ n, k = .text n := by
  unfold HasNames
  induction es with
  | nil => simp [put]
  | cons e rest ih =>
    obtain ⟨l, w⟩ := e
    rw [put]
    split
    · next hsame =>
      have hl : (∃ n, l = .text n) ↔ ∃ n, k = .text n := by
        constructor
        · rintro ⟨n, rfl⟩
          exact ⟨n, sameKey_of_text hsame⟩
        · rintro ⟨n, rfl⟩
          exact ⟨n, sameKey_text_iff.mp hsame⟩
      simp only [List.forall_mem_cons, hl]
      tauto
    · simp only [List.forall_mem_cons, ih, and_assoc]

theorem hasNames_foldl_put {entries : List (Value × Value)} :
    HasNames (entries.foldl (fun done (k, v) => put done k v) []) ↔ HasNames entries := by
  induction entries using List.reverseRecOn with
  | nil => exact Iff.rfl
  | append_singleton entries e ih =>
    rw [List.foldl_append]
    show HasNames (put _ e.1 e.2) ↔ _
    rw [hasNames_put, ih]
    simp only [HasNames, List.forall_mem_append, List.forall_mem_singleton]

end Registry.Value
