import Registry.Value

/-!
# Keys of mappings

To be the same key is an equivalence of values (`sameKey_refl`, `sameKey_comm`, `sameKey_trans`). It
is reflexive although a nan and an object without content equal nothing, because a key is found as
the object that it is.
-/

namespace Registry.Value

/-! ## Moments -/

theorem sameMoment_refl (d : DateTime) : sameMoment d d = true := by
  unfold sameMoment
  cases d.offset <;> exact beq_self_eq_true _

theorem sameMoment_comm (d e : DateTime) : sameMoment d e = sameMoment e d := by
  unfold sameMoment
  cases d.offset with
  | none => cases e.offset with
    | none => exact BEq.comm
    | some p => rfl
  | some o => cases e.offset with
    | none => rfl
    | some p => exact BEq.comm

theorem sameMoment_trans {d e f : DateTime} (h : sameMoment d e = true)
    (h' : sameMoment e f = true) : sameMoment d f = true := by
  unfold sameMoment at *
  cases hd : d.offset <;> cases he : e.offset <;> cases hf : f.offset <;>
    simp_all only [beq_iff_eq, reduceCtorEq]

/-! ## Kinds of keys -/

theorem sameKey_tuple_iff {items : List Value} {l : Value} :
    sameKey (tuple items) l = true ↔ ∃ others, l = tuple others ∧ sameKeys items others = true := by
  cases l with
  | float x => cases hx : x.toInt? <;> simp [sameKey, keyInt?, hx]
  | _ => simp [sameKey, keyInt?]

theorem sameKey_dateTime_iff {d : DateTime} {l : Value} :
    sameKey (dateTime d) l = true ↔ ∃ e, l = dateTime e ∧ sameMoment d e = true := by
  cases l with
  | float x => cases hx : x.toInt? <;> simp [sameKey, keyInt?, hx]
  | _ => simp [sameKey, keyInt?]

/-- A key that is neither a sequence nor a moment. -/
def IsSimpleKey : Value → Prop
  | tuple _ => False
  | dateTime _ => False
  | _ => True

/-- Simple keys are the same if they are equal in number, or are no numbers and one value. -/
theorem sameKey_simple_iff {k l : Value} (hk : k.IsSimpleKey) :
    sameKey k l = true ↔ (∃ n, k.keyInt? = some n ∧ l.keyInt? = some n)
      ∨ k.keyInt? = none ∧ k = l := by
  rw [sameKey]
  · cases hi : k.keyInt? with
    | some n =>
      cases hj : l.keyInt? with
      | none => simp
      | some m => simp [eq_comm (a := m)]
    | none =>
      cases hj : l.keyInt? with
      | some n =>
        have hne : k ≠ l := by
          rintro rfl
          rw [hi] at hj
          cases hj
        simp [hne]
      | none => simp
  · rintro items others rfl -
    exact hk
  · rintro d e rfl -
    exact hk

theorem isSimpleKey_of_sameKey {k l : Value} (hk : k.IsSimpleKey) (h : sameKey k l = true) :
    l.IsSimpleKey := by
  rcases (sameKey_simple_iff hk).mp h with ⟨n, -, hn⟩ | ⟨-, rfl⟩
  · cases l with
    | tuple items => cases hn
    | dateTime d => cases hn
    | _ => trivial
  · exact hk

/-! ## Equivalence -/

theorem sameKey_refl_of_simple {k : Value} (hk : k.IsSimpleKey) : sameKey k k = true := by
  cases hi : k.keyInt? with
  | some n => exact (sameKey_simple_iff hk).mpr (.inl ⟨n, hi, hi⟩)
  | none => exact (sameKey_simple_iff hk).mpr (.inr ⟨hi, rfl⟩)

mutual

theorem sameKey_refl : (k : Value) → sameKey k k = true
  | tuple items => sameKey_tuple_iff.mpr ⟨items, rfl, sameKeys_refl items⟩
  | dateTime d => sameKey_dateTime_iff.mpr ⟨d, rfl, sameMoment_refl d⟩
  | null | bool _ | int _ | float _ | text _ | bytes _ | list _ | dict _ | date _ | other _
  | enclosing _ => sameKey_refl_of_simple trivial

theorem sameKeys_refl : (ks : List Value) → sameKeys ks ks = true
  | [] => rfl
  | k :: ks => by rw [sameKeys, sameKey_refl k, sameKeys_refl ks, Bool.true_and]

end

/-- A nan is found as the object that it is, and no other nan is. -/
example : sameKey (float (.nan 0)) (float (.nan 0)) = true
    ∧ sameKey (float (.nan 0)) (float (.nan 1)) = false := by
  decide

theorem sameKey_symm_of_simple {k l : Value} (hk : k.IsSimpleKey) (h : sameKey k l = true) :
    sameKey l k = true := by
  rcases (sameKey_simple_iff hk).mp h with ⟨n, hkn, hln⟩ | ⟨-, rfl⟩
  · exact (sameKey_simple_iff (isSimpleKey_of_sameKey hk h)).mpr (.inl ⟨n, hln, hkn⟩)
  · exact h

theorem sameKey_trans_of_simple {k l m : Value} (hk : k.IsSimpleKey) (h : sameKey k l = true)
    (h' : sameKey l m = true) : sameKey k m = true := by
  rcases (sameKey_simple_iff hk).mp h with ⟨n, hkn, hln⟩ | ⟨-, rfl⟩
  · rcases (sameKey_simple_iff (isSimpleKey_of_sameKey hk h)).mp h' with ⟨j, hlj, hmj⟩ | ⟨hnone, -⟩
    · obtain rfl : n = j := Option.some.inj (hln.symm.trans hlj)
      exact (sameKey_simple_iff hk).mpr (.inl ⟨n, hkn, hmj⟩)
    · rw [hln] at hnone
      cases hnone
  · exact h'

mutual

theorem sameKey_symm (k : Value) {l : Value} (h : sameKey k l = true) : sameKey l k = true := by
  cases k with
  | tuple items =>
    obtain ⟨others, rfl, hitems⟩ := sameKey_tuple_iff.mp h
    exact sameKey_tuple_iff.mpr ⟨items, rfl, sameKeys_symm items hitems⟩
  | dateTime d =>
    obtain ⟨e, rfl, hmoment⟩ := sameKey_dateTime_iff.mp h
    exact sameKey_dateTime_iff.mpr ⟨d, rfl, sameMoment_comm d e ▸ hmoment⟩
  | _ => exact sameKey_symm_of_simple trivial h

theorem sameKeys_symm (ks : List Value) {ls : List Value} (h : sameKeys ks ls = true) :
    sameKeys ls ks = true := by
  cases ks with
  | nil => cases ls with
    | nil => rfl
    | cons l ls => cases h
  | cons k ks => cases ls with
    | nil => cases h
    | cons l ls =>
      rw [sameKeys, Bool.and_eq_true] at h ⊢
      exact ⟨sameKey_symm k h.1, sameKeys_symm ks h.2⟩

end

mutual

theorem sameKey_trans (k : Value) {l m : Value} (h : sameKey k l = true)
    (h' : sameKey l m = true) : sameKey k m = true := by
  cases k with
  | tuple items =>
    obtain ⟨others, rfl, hitems⟩ := sameKey_tuple_iff.mp h
    obtain ⟨more, rfl, hothers⟩ := sameKey_tuple_iff.mp h'
    exact sameKey_tuple_iff.mpr ⟨more, rfl, sameKeys_trans items hitems hothers⟩
  | dateTime d =>
    obtain ⟨e, rfl, hmoment⟩ := sameKey_dateTime_iff.mp h
    obtain ⟨f, rfl, hmoment'⟩ := sameKey_dateTime_iff.mp h'
    exact sameKey_dateTime_iff.mpr ⟨f, rfl, sameMoment_trans hmoment hmoment'⟩
  | _ => exact sameKey_trans_of_simple trivial h h'

theorem sameKeys_trans (ks : List Value) {ls ms : List Value} (h : sameKeys ks ls = true)
    (h' : sameKeys ls ms = true) : sameKeys ks ms = true := by
  cases ks with
  | nil => cases ls with
    | nil => exact h'
    | cons l ls => cases h
  | cons k ks => cases ls with
    | nil => cases h
    | cons l ls => cases ms with
      | nil => cases h'
      | cons m ms =>
        rw [sameKeys, Bool.and_eq_true] at h h' ⊢
        exact ⟨sameKey_trans k h.1 h'.1, sameKeys_trans ks h.2 h'.2⟩

end

theorem sameKey_comm (k l : Value) : sameKey k l = sameKey l k :=
  Bool.eq_iff_iff.mpr ⟨sameKey_symm k, sameKey_symm l⟩

/-- What is the same key as one of two same keys is the same as the other. -/
theorem sameKey_congr {k l : Value} (h : sameKey k l = true) (m : Value) :
    sameKey k m = sameKey l m :=
  Bool.eq_iff_iff.mpr ⟨sameKey_trans l (sameKey_symm k h), sameKey_trans k h⟩

end Registry.Value
