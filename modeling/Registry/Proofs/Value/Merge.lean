import Registry.Proofs.Value.Entries
import Registry.Value.Merge

/-!
# Merged mappings

What stands under a key of a merged mapping is worked out from what stands under it in the two
mappings (`lookup?_mergeEntries`). Entry by entry, the merged mapping is the first one, each value
merged with that of its key in the second one, and behind it the entries of the second one whose keys
are new (`mergeEntries_eq`).
-/

namespace Registry.Value

/-- Merging a mapping over another one, key by key. -/
theorem lookup?_mergeEntries {override : List (Value × Value)} (h : KeysApart override)
    (base : List (Value × Value)) (k : Value) :
    lookup? k (mergeEntries base override)
      = match lookup? k override with
        | none => lookup? k base
        | some v => some (mergeOver (lookup? k base) v) := by
  induction override generalizing base with
  | nil => rw [mergeEntries]; rfl
  | cons e rest ih =>
    obtain ⟨l, v⟩ := e
    rw [keysApart_cons_iff] at h
    rw [mergeEntries, ih h.2, lookup?_put, lookup?_cons]
    by_cases hsame : l.sameKey k = true
    · have hrest : lookup? k rest = none := by
        rw [← lookup?_congr hsame]
        exact lookup?_eq_none_iff.mpr h.1
      rw [if_pos hsame, if_pos hsame, hrest, lookup?_congr hsame base]
    · rw [if_neg hsame, if_neg hsame]

/-! ## Entry by entry -/

theorem mergeOver_none (v : Value) : mergeOver none v = v := by
  cases v <;> rfl

/-- The value of an entry after a mapping has been merged over it. -/
def overridden (override : List (Value × Value)) (e : Value × Value) : Value :=
  match lookup? e.1 override with
  | none => e.2
  | some v => mergeOver (some e.2) v

section

variable {k v : Value} {rest override : List (Value × Value)} {e : Value × Value}

theorem overridden_of_not_hasKey (h : hasKey override e.1 = false) : overridden override e = e.2 := by
  unfold overridden
  rw [lookup?_eq_none_iff.mpr h]

theorem overridden_cons_of_sameKey (h : e.1.sameKey k = true) :
    overridden ((k, v) :: rest) e = mergeOver (some e.2) v := by
  unfold overridden
  rw [lookup?_cons, if_pos (sameKey_symm _ h)]

theorem overridden_cons_of_not_sameKey (h : ¬e.1.sameKey k = true) :
    overridden ((k, v) :: rest) e = overridden rest e := by
  unfold overridden
  rw [lookup?_cons, if_neg (mt (sameKey_symm _) h)]

end

theorem put_of_hasKey {es : List (Value × Value)} {k : Value} (h : KeysApart es)
    (hk : hasKey es k = true) (v : Value) :
    put es k v = es.map fun e => (e.1, if e.1.sameKey k then v else e.2) := by
  induction es with
  | nil => cases hk
  | cons e rest ih =>
    rw [keysApart_cons_iff] at h
    rw [put, List.map_cons]
    split
    · next hsame =>
      -- no other entry has the key
      have hrest : ∀ f ∈ rest, ¬f.1.sameKey k = true := by
        intro f hf
        rw [sameKey_comm, ← sameKey_congr hsame, sameKey_comm,
          hasKey_eq_false_iff.mp h.1 f hf]
        exact Bool.false_ne_true
      have hmap : rest.map (fun f => (f.1, if f.1.sameKey k then v else f.2)) = rest := by
        conv_rhs => rw [← List.map_id rest]
        exact List.map_congr_left fun f hf => by rw [if_neg (hrest f hf)]; rfl
      rw [hmap]
    · next hother =>
      rw [hasKey, List.any_cons, Bool.or_eq_true, or_iff_right hother] at hk
      rw [ih h.2 hk]

theorem put_of_not_hasKey {es : List (Value × Value)} {k : Value} (hk : hasKey es k = false)
    (v : Value) : put es k v = es ++ [(k, v)] := by
  induction es with
  | nil => rfl
  | cons e rest ih =>
    rw [hasKey, List.any_cons, Bool.or_eq_false_iff] at hk
    rw [put, hk.1, if_neg Bool.false_ne_true, ih hk.2, List.cons_append]

/-- Putting over a value keeps the keys and their order. -/
theorem map_fst_put_of_hasKey {es : List (Value × Value)} {k : Value} (h : KeysApart es)
    (hk : hasKey es k = true) (v : Value) : (put es k v).map Prod.fst = es.map Prod.fst := by
  rw [put_of_hasKey h hk, List.map_map]
  rfl

theorem keysApart_iff_map {es : List (Value × Value)} :
    KeysApart es ↔ (es.map Prod.fst).Pairwise fun k l => k.sameKey l = false := by
  rw [List.pairwise_map]
  rfl

theorem hasKey_map_fst_congr {es fs : List (Value × Value)} (h : es.map Prod.fst = fs.map Prod.fst)
    (k : Value) : hasKey es k = hasKey fs k := by
  have hany (es : List (Value × Value)) :
      hasKey es k = (es.map Prod.fst).any fun l => l.sameKey k := by
    rw [List.any_map]
    rfl
  rw [hany, hany, h]

/-- The merged mapping, entry by entry. -/
theorem mergeEntries_eq {base override : List (Value × Value)} (hbase : KeysApart base)
    (h : KeysApart override) :
    mergeEntries base override
      = base.map (fun e => (e.1, overridden override e))
        ++ override.filter fun e => !hasKey base e.1 := by
  induction override generalizing base with
  | nil =>
    rw [mergeEntries, List.filter_nil, List.append_nil]
    exact (List.map_id base).symm
  | cons e rest ih =>
    obtain ⟨k, v⟩ := e
    rw [keysApart_cons_iff] at h
    rw [mergeEntries]
    cases hk : hasKey base k with
    | true =>
      have hkeys := map_fst_put_of_hasKey hbase hk (mergeOver (lookup? k base) v)
      have hput : KeysApart (put base k (mergeOver (lookup? k base) v)) := by
        rw [keysApart_iff_map, hkeys, ← keysApart_iff_map]
        exact hbase
      rw [ih hput h.2, List.filter_cons, hk]
      simp only [hasKey_map_fst_congr hkeys]
      refine congrArg (· ++ _) ?_
      rw [put_of_hasKey hbase hk, List.map_map]
      refine List.map_congr_left fun f hf => Prod.ext rfl ?_
      show overridden rest (f.1, if f.1.sameKey k then mergeOver (lookup? k base) v else f.2)
        = overridden ((k, v) :: rest) f
      by_cases hfk : f.1.sameKey k = true
      · -- no other entry of the second mapping has the key
        have hrest : hasKey rest f.1 = false := (hasKey_congr hfk rest).trans h.1
        rw [if_pos hfk, overridden_of_not_hasKey (e := (f.1, mergeOver (lookup? k base) v)) hrest,
          overridden_cons_of_sameKey hfk, lookup?_of_mem hbase hf hfk]
      · rw [if_neg hfk, overridden_cons_of_not_sameKey hfk]
    | false =>
      have hput : KeysApart (base ++ [(k, v)]) :=
        keysApart_append_iff.mpr ⟨hbase, List.pairwise_singleton _ _, fun f hf => by
          rw [List.mem_singleton.mp hf]
          exact hk⟩
      have hlast : overridden rest (k, v) = v := overridden_of_not_hasKey h.1
      have hnew (f : Value × Value) (hf : f ∈ rest) :
          hasKey (base ++ [(k, v)]) f.1 = hasKey base f.1 := by
        rw [hasKey_append, hasKey_singleton, sameKey_comm, hasKey_eq_false_iff.mp h.1 f hf,
          Bool.or_false]
      rw [lookup?_eq_none_iff.mpr hk, mergeOver_none, put_of_not_hasKey hk, ih hput h.2,
        List.map_append, List.map_singleton, hlast, List.filter_cons, hk,
        List.filter_congr fun f hf => by rw [hnew f hf], List.append_assoc]
      refine congrArg₂ (· ++ ·) (List.map_congr_left fun f hf => ?_) rfl
      have hfk : ¬f.1.sameKey k = true := by
        rw [hasKey_eq_false_iff.mp hk f hf]
        exact Bool.false_ne_true
      rw [overridden_cons_of_not_sameKey hfk]

end Registry.Value
