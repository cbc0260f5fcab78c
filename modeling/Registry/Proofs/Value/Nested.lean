import Registry.Proofs.Value.Merge

/-!
# Merging nested mappings

The mappings under the keys of a mapping are merged in turn, so what stands at a place of the merged
mapping, the end of a path of keys, is worked out from what stands there in the two
(`at?_mergeEntries`). Merging a mapping once more changes nothing (`mergeEntries_absorbs`), and
merging is associative unless the mapping in the middle has something else than a mapping at a place
where the two others have mappings (`mergeEntries_assoc`).
-/

namespace Registry.Value

/-! ## Nested mappings -/

mutual

/-- A property of mappings holds of the value, if it is one, and of the mappings under its keys, at
every depth. -/
def Throughout (P : List (Value × Value) → Prop) : Value → Prop
  | dict es => P es ∧ ThroughoutEntries P es
  | _ => True

/-- The property holds throughout all values of a list of entries. -/
def ThroughoutEntries (P : List (Value × Value) → Prop) : List (Value × Value) → Prop
  | [] => True
  | (_, v) :: rest => Throughout P v ∧ ThroughoutEntries P rest

end

mutual

/-- Whether a property holds throughout a value is found out by going through it. -/
def decidableThroughout (P : List (Value × Value) → Prop) [DecidablePred P] :
    ∀ v : Value, Decidable (v.Throughout P)
  | dict es =>
    have := decidableThroughoutEntries P es
    inferInstanceAs (Decidable (P es ∧ ThroughoutEntries P es))
  | null | bool _ | int _ | float _ | text _ | bytes _ | list _ | tuple _ | dateTime _ | date _
  | other _ | enclosing _ => isTrue trivial

/-- The same for a list of entries. -/
def decidableThroughoutEntries (P : List (Value × Value) → Prop) [DecidablePred P] :
    ∀ es : List (Value × Value), Decidable (ThroughoutEntries P es)
  | [] => isTrue trivial
  | (_, v) :: rest =>
    have := decidableThroughout P v
    have := decidableThroughoutEntries P rest
    inferInstanceAs (Decidable (Throughout P v ∧ ThroughoutEntries P rest))

end

instance (P : List (Value × Value) → Prop) [DecidablePred P] (v : Value) :
    Decidable (v.Throughout P) := decidableThroughout P v

/-- The mapping and those in it are such that no key stands twice. -/
def IsKeyed (es : List (Value × Value)) : Prop := (dict es).Throughout KeysApart

instance (es : List (Value × Value)) : Decidable (IsKeyed es) :=
  inferInstanceAs (Decidable ((dict es).Throughout KeysApart))

section

variable {P : List (Value × Value) → Prop} {es a b c : List (Value × Value)}

theorem throughoutEntries_iff : ThroughoutEntries P es ↔ ∀ e ∈ es, e.2.Throughout P := by
  induction es with
  | nil => simp [ThroughoutEntries]
  | cons e rest ih =>
    obtain ⟨k, v⟩ := e
    rw [ThroughoutEntries, ih, List.forall_mem_cons]

theorem throughout_dict_iff :
    (dict es).Throughout P ↔ P es ∧ ∀ e ∈ es, e.2.Throughout P := by
  rw [Throughout, throughoutEntries_iff]

theorem throughout_of_lookup? {k v : Value} (h : (dict es).Throughout P)
    (hv : lookup? k es = some v) : v.Throughout P := by
  obtain ⟨l, hl, -⟩ := exists_mem_of_lookup? hv
  exact (throughout_dict_iff.mp h).2 _ hl

/-- What holds of a mapping if it holds of the mappings under its keys holds of all of them. -/
theorem nested_induction {motive : List (Value × Value) → Prop}
    (step : ∀ es, (∀ k inner, lookup? k es = some (dict inner) → motive inner) → motive es)
    (es : List (Value × Value)) : motive es := by
  refine step es fun k inner hk => ?_
  obtain ⟨l, hl, -⟩ := exists_mem_of_lookup? hk
  have hsize : sizeOf inner < sizeOf es := by
    have hlt := List.sizeOf_lt_of_mem hl
    simp only [Prod.mk.sizeOf_spec, dict.sizeOf_spec] at hlt
    omega
  exact nested_induction step inner
termination_by sizeOf es
decreasing_by exact hsize

end

/-! ## What stands at a place -/

def isDict : Value → Bool
  | dict _ => true
  | _ => false

theorem eq_dict_of_isDict {v : Value} (h : v.isDict = true) : ∃ es, v = dict es := by
  cases v with
  | dict es => exact ⟨es, rfl⟩
  | _ => cases h

/-- The value at the end of a path of keys. -/
def at? : Value → List Value → Option Value
  | v, [] => some v
  | dict es, k :: path => (lookup? k es).bind fun v => at? v path
  | _, _ :: _ => none

/-- Along a path there is a value that is no mapping. -/
def blocks : Value → List Value → Bool
  | dict _, [] => false
  | dict es, k :: path => (lookup? k es).any fun v => blocks v path
  | _, _ => true

/-- What merging makes of what stands at a place: two mappings are merged, otherwise the second value
counts, and the first one where there is no second. -/
def merged : Option Value → Option Value → Option Value
  | some (dict a), some (dict b) => some (dict (mergeEntries a b))
  | _, some w => some w
  | o, none => o

section

variable {a b c : List (Value × Value)}

/-- Unless both are mappings, a value over another one counts. -/
theorem mergeOver_of_not_dict {v w : Value} (h : v.isDict = false ∨ w.isDict = false) :
    mergeOver (some v) w = w := by
  cases w with
  | dict y => cases v with
    | dict x => rcases h with h | h <;> cases h
    | _ => rfl
  | _ => rfl

/-- A value over another one is merged with it if both are mappings, and counts otherwise. -/
theorem mergeOver_cases (v w : Value) :
    (∃ x y, v = dict x ∧ w = dict y ∧ mergeOver (some v) w = dict (mergeEntries x y))
      ∨ mergeOver (some v) w = w := by
  cases hv : v.isDict with
  | false => exact .inr (mergeOver_of_not_dict (.inl hv))
  | true =>
    cases hw : w.isDict with
    | false => exact .inr (mergeOver_of_not_dict (.inr hw))
    | true =>
      obtain ⟨x, rfl⟩ := eq_dict_of_isDict hv
      obtain ⟨y, rfl⟩ := eq_dict_of_isDict hw
      exact .inl ⟨x, y, rfl, rfl, rfl⟩

theorem merged_some (o : Option Value) (w : Value) : merged o (some w) = some (mergeOver o w) := by
  cases o with
  | none => rw [mergeOver_none]; cases w <;> rfl
  | some v => cases v <;> cases w <;> rfl

theorem merged_of_not_dict {v w : Value} (h : v.isDict = false ∨ w.isDict = false) :
    merged (some v) (some w) = some w := by
  rw [merged_some, mergeOver_of_not_dict h]

theorem merged_none_left (o : Option Value) : merged none o = o := by
  cases o <;> rfl

theorem merged_none_right (o : Option Value) : merged o none = o := by
  cases o with
  | none => rfl
  | some v => cases v <;> rfl

theorem lookup?_merged (hb : KeysApart b) (k : Value) :
    lookup? k (mergeEntries a b) = merged (lookup? k a) (lookup? k b) := by
  rw [lookup?_mergeEntries hb]
  cases lookup? k b with
  | none => exact (merged_none_right _).symm
  | some w => exact (merged_some _ w).symm

theorem at?_of_not_dict {v : Value} (h : v.isDict = false) (k : Value) (path : List Value) :
    v.at? (k :: path) = none := by
  cases v with
  | dict es => cases h
  | _ => rfl

theorem blocks_of_not_dict {v : Value} (h : v.isDict = false) (path : List Value) :
    v.blocks path = true := by
  cases v with
  | dict es => cases h
  | _ => cases path <;> rfl

/-- Merging place by place: behind a value of the second mapping that is no mapping only that one
counts, and at every other place both do. -/
theorem at?_mergeEntries (hb : IsKeyed b) (path : List Value) :
    (dict (mergeEntries a b)).at? path
      = if (dict b).blocks path then (dict b).at? path
        else merged ((dict a).at? path) ((dict b).at? path) := by
  induction path generalizing a b with
  | nil => rfl
  | cons k path ih =>
    rw [at?, at?, at?, blocks, lookup?_merged (throughout_dict_iff.mp hb).1]
    cases hw : lookup? k b with
    | none => rw [merged_none_right, Option.bind_none, merged_none_right]; rfl
    | some w =>
      rw [Option.bind_some, Option.any_some]
      cases hv : lookup? k a with
      | none =>
        rw [merged_none_left, Option.bind_none, merged_none_left, Option.bind_some, ite_self]
      | some v =>
        cases hw' : w.isDict with
        | false =>
          rw [merged_of_not_dict (.inr hw'), blocks_of_not_dict hw', if_pos rfl, Option.bind_some]
        | true =>
          obtain ⟨y, rfl⟩ := eq_dict_of_isDict hw'
          cases hv' : v.isDict with
          | true =>
            -- two mappings are merged, and the rest of the path leads through the merged one
            obtain ⟨x, rfl⟩ := eq_dict_of_isDict hv'
            exact ih (throughout_of_lookup? hb hw)
          | false =>
            -- a mapping takes the place of something else, behind which there is nothing
            rw [merged_of_not_dict (.inl hv'), Option.bind_some, Option.bind_some]
            cases path with
            | nil => exact (merged_of_not_dict (.inl hv')).symm
            | cons l path => rw [at?_of_not_dict hv', merged_none_left, ite_self]

/-! ## Keys of merged mappings -/

/-- The keys of a merged mapping are those of the first one and behind them the new ones of the
second one, each in their order. -/
theorem map_fst_mergeEntries (ha : KeysApart a) (hb : KeysApart b) :
    (mergeEntries a b).map Prod.fst
      = a.map Prod.fst ++ (b.map Prod.fst).filter fun k => !hasKey a k := by
  rw [mergeEntries_eq ha hb, List.map_append, List.map_map, List.filter_map]
  rfl

theorem keysApart_mergeEntries (ha : KeysApart a) (hb : KeysApart b) :
    KeysApart (mergeEntries a b) := by
  have hold : KeysApart (a.map fun e => (e.1, overridden b e)) := List.pairwise_map.mpr ha
  have hkeys : (a.map fun e => (e.1, overridden b e)).map Prod.fst = a.map Prod.fst := by
    rw [List.map_map]
    rfl
  rw [mergeEntries_eq ha hb, keysApart_append_iff]
  refine ⟨hold, List.Pairwise.filter _ hb, fun f hf => ?_⟩
  rw [hasKey_map_fst_congr hkeys]
  exact Bool.not_eq_true' _ |>.mp (List.mem_filter.mp hf).2

theorem hasKey_mergeEntries (hb : KeysApart b) (k : Value) :
    hasKey (mergeEntries a b) k = (hasKey a k || hasKey b k) := by
  rw [Bool.eq_iff_iff, Bool.or_eq_true, ← not_iff_not, not_or]
  simp only [Bool.not_eq_true, ← lookup?_eq_none_iff]
  rw [lookup?_mergeEntries hb]
  cases lookup? k b <;> simp

theorem isKeyed_mergeEntries (ha : IsKeyed a) (hb : IsKeyed b) : IsKeyed (mergeEntries a b) := by
  induction b using nested_induction generalizing a with
  | step b ih =>
    obtain ⟨hat, hai⟩ := throughout_dict_iff.mp ha
    obtain ⟨hbt, hbi⟩ := throughout_dict_iff.mp hb
    refine throughout_dict_iff.mpr ⟨keysApart_mergeEntries hat hbt, fun e he => ?_⟩
    -- an entry is one of the first mapping, perhaps overridden, or a new one of the second
    rw [mergeEntries_eq hat hbt, List.mem_append] at he
    rcases he with he | he
    · obtain ⟨f, hf, rfl⟩ := List.mem_map.mp he
      unfold overridden
      cases hw : lookup? f.1 b with
      | none => exact hai f hf
      | some w =>
        have hv := hai f hf
        have hw' := throughout_of_lookup? hb hw
        show (mergeOver (some f.2) w).Throughout KeysApart
        rcases mergeOver_cases f.2 w with ⟨x, y, hx, rfl, hmerged⟩ | hmerged
        · rw [hx] at hv
          rw [hmerged]
          exact ih f.1 y hw hv hw'
        · rw [hmerged]
          exact hw'
    · exact hbi e (List.mem_filter.mp he).1

/-! ## Laws -/

theorem isKeyed_nil : IsKeyed [] := throughout_dict_iff.mpr ⟨List.Pairwise.nil, fun _ h => nomatch h⟩

theorem mergeEntries_nil_left (hb : KeysApart b) : mergeEntries [] b = b := by
  rw [mergeEntries_eq List.Pairwise.nil hb, List.map_nil, List.nil_append]
  exact List.filter_eq_self.mpr fun _ _ => rfl

/-- A value over what it has been put over already, if mappings change nothing in this way. -/
theorem mergeOver_absorbs {o : Option Value} {w : Value}
    (hself : ∀ y, w = dict y → mergeEntries y y = y)
    (hover : ∀ x y, o = some (dict x) → w = dict y →
      mergeEntries (mergeEntries x y) y = mergeEntries x y) :
    mergeOver (some (mergeOver o w)) w = mergeOver o w := by
  have hw : mergeOver (some w) w = w := by
    rcases mergeOver_cases w w with ⟨y, z, rfl, hz, hmerged⟩ | hmerged
    · rw [hmerged, ← dict.inj hz, hself y rfl]
    · exact hmerged
  cases o with
  | none => rw [mergeOver_none, hw]
  | some v =>
    rcases mergeOver_cases v w with ⟨x, y, rfl, rfl, hmerged⟩ | hmerged
    · rw [hmerged]
      exact congrArg dict (hover x y rfl rfl)
    · rw [hmerged, hw]

/-- An entry of a merged mapping has the value that merging has made. -/
theorem eq_mergeOver_of_mem (ha : KeysApart a) (hb : KeysApart b) {e : Value × Value}
    (he : e ∈ mergeEntries a b) {w : Value} (hw : lookup? e.1 b = some w) :
    e.2 = mergeOver (lookup? e.1 a) w := by
  have hfound := lookup?_of_mem (keysApart_mergeEntries ha hb) he (sameKey_refl e.1)
  rw [lookup?_mergeEntries hb, hw] at hfound
  exact (Option.some.inj hfound).symm

/-- A mapping that has been merged over another one changes nothing when it is merged again. -/
theorem mergeEntries_absorbs (ha : IsKeyed a) (hb : IsKeyed b) :
    mergeEntries (mergeEntries a b) b = mergeEntries a b := by
  induction b using nested_induction generalizing a with
  | step b ih =>
    have hat := (throughout_dict_iff.mp ha).1
    have hbt := (throughout_dict_iff.mp hb).1
    have hold : ∀ e ∈ mergeEntries a b, (e.1, overridden b e) = e := by
      intro e he
      refine Prod.ext rfl ?_
      unfold overridden
      cases hw : lookup? e.1 b with
      | none => rfl
      | some w =>
        have hwk := throughout_of_lookup? hb hw
        show mergeOver (some e.2) w = e.2
        rw [eq_mergeOver_of_mem hat hbt he hw]
        refine mergeOver_absorbs (fun y hy => ?_) fun x y hx hy => ?_
        · subst hy
          have h := ih e.1 y hw isKeyed_nil hwk
          rwa [mergeEntries_nil_left (throughout_dict_iff.mp hwk).1] at h
        · subst hy
          exact ih e.1 y hw (throughout_of_lookup? ha hx) hwk
    have hnew : ∀ e ∈ b, hasKey (mergeEntries a b) e.1 = true := by
      intro e he
      rw [hasKey_mergeEntries hbt, Bool.or_eq_true]
      exact .inr (hasKey_iff.mpr ⟨e, he, sameKey_refl e.1⟩)
    rw [mergeEntries_eq (keysApart_mergeEntries hat hbt) hbt, List.map_congr_left hold,
      List.map_id', List.filter_eq_nil_iff.mpr fun e he => by simp [hnew e he], List.append_nil]

theorem mergeEntries_self (ha : IsKeyed a) : mergeEntries a a = a := by
  have h := mergeEntries_absorbs isKeyed_nil ha
  rwa [mergeEntries_nil_left (throughout_dict_iff.mp ha).1] at h

/-- Wherever the first and the third value have a mapping at one place, the second one has a mapping
there or nothing. -/
def NoneBetween (u v w : Value) : Prop :=
  ∀ path x y z, u.at? path = some (dict x) → v.at? path = some y → w.at? path = some (dict z) →
    y.isDict = true

theorem NoneBetween.of_lookup? {k u v w : Value} (h : NoneBetween (dict a) (dict b) (dict c))
    (hu : lookup? k a = some u) (hv : lookup? k b = some v) (hw : lookup? k c = some w) :
    NoneBetween u v w := by
  intro path x y z hx hy hz
  refine h (k :: path) x y z ?_ ?_ ?_
  · rw [at?, hu, Option.bind_some, hx]
  · rw [at?, hv, Option.bind_some, hy]
  · rw [at?, hw, Option.bind_some, hz]

/-- Values over each other, if mappings among them can be merged in either order. -/
theorem mergeOver_assoc {u v w : Value} (h : NoneBetween u v w)
    (hdict : ∀ x y z, u = dict x → v = dict y → w = dict z →
      NoneBetween (dict x) (dict y) (dict z) →
      mergeEntries (mergeEntries x y) z = mergeEntries x (mergeEntries y z)) :
    mergeOver (some (mergeOver (some u) v)) w = mergeOver (some u) (mergeOver (some v) w) := by
  cases hw : w.isDict with
  | false =>
    rw [mergeOver_of_not_dict (.inr hw), mergeOver_of_not_dict (.inr hw),
      mergeOver_of_not_dict (.inr hw)]
  | true =>
    cases hu : u.isDict with
    | false => rw [mergeOver_of_not_dict (.inl hu), mergeOver_of_not_dict (.inl hu)]
    | true =>
      obtain ⟨x, rfl⟩ := eq_dict_of_isDict hu
      obtain ⟨z, rfl⟩ := eq_dict_of_isDict hw
      obtain ⟨y, rfl⟩ := eq_dict_of_isDict (h [] x v z rfl rfl rfl)
      exact congrArg dict (hdict x y z rfl rfl rfl h)

/-- Merging is associative if the mapping in the middle has nothing else than a mapping at a place
where the two others have mappings. -/
theorem mergeEntries_assoc (ha : IsKeyed a) (hb : IsKeyed b) (hc : IsKeyed c)
    (h : NoneBetween (dict a) (dict b) (dict c)) :
    mergeEntries (mergeEntries a b) c = mergeEntries a (mergeEntries b c) := by
  induction c using nested_induction generalizing a b with
  | step c ih =>
    have hat := (throughout_dict_iff.mp ha).1
    have hbt := (throughout_dict_iff.mp hb).1
    have hct := (throughout_dict_iff.mp hc).1
    -- what becomes of an entry of the first mapping
    have hfirst : ∀ e ∈ a,
        overridden c (e.1, overridden b e) = overridden (mergeEntries b c) e := by
      intro e he
      unfold overridden
      simp only
      rw [lookup?_mergeEntries hct]
      cases hw : lookup? e.1 c with
      | none => rfl
      | some w =>
        cases hv : lookup? e.1 b with
        | none => simp only [mergeOver_none]
        | some v =>
          have hu := lookup?_of_mem hat he (sameKey_refl e.1)
          refine mergeOver_assoc (h.of_lookup? hu hv hw) fun x y z hx hy hz hnone => ?_
          subst hy hz
          rw [hx] at hu
          exact ih e.1 z hw (throughout_of_lookup? ha hu) (throughout_of_lookup? hb hv)
            (throughout_of_lookup? hc hw) hnone
    -- which entries of the third mapping are new
    have hthird : ∀ e ∈ c, (!hasKey (mergeEntries a b) e.1)
        = (!hasKey a e.1 && !hasKey b e.1) := by
      intro e _
      rw [hasKey_mergeEntries hbt, Bool.not_or]
    rw [mergeEntries_eq (keysApart_mergeEntries hat hbt) hct,
      mergeEntries_eq hat (keysApart_mergeEntries hbt hct), List.filter_congr hthird,
      mergeEntries_eq hat hbt, List.map_append, List.map_map, List.append_assoc]
    refine congrArg₂ (· ++ ·) (List.map_congr_left fun e he => Prod.ext rfl (hfirst e he)) ?_
    rw [mergeEntries_eq hbt hct, List.filter_append, List.filter_map, List.filter_filter]
    rfl

end

/-- A mapping in the middle that has a number where the others have mappings. -/
example :
    let a := [(text "pool", dict [(text "size", int 1)])]
    let b := [(text "pool", int 0)]
    let c := [(text "pool", dict [(text "timeout", int 2)])]
    mergeEntries (mergeEntries a b) c = c
      ∧ mergeEntries a (mergeEntries b c)
        = [(text "pool", dict [(text "size", int 1), (text "timeout", int 2)])] := by
  decide

/-- At every place where both values have something, both have a mapping there or neither has. -/
def SameKinds (u v : Value) : Prop :=
  ∀ path x y, u.at? path = some x → v.at? path = some y → x.isDict = y.isDict

theorem noneBetween_of_sameKinds {u v w : Value} (h : SameKinds u v ∨ SameKinds v w) :
    NoneBetween u v w := by
  intro path x y z hx hy hz
  rcases h with h | h
  · exact (h path _ _ hx hy).symm
  · exact h path _ _ hy hz

section

variable {a b c : List (Value × Value)}

theorem sameKinds_dict (h : ∀ k v w, lookup? k a = some v → lookup? k b = some w → SameKinds v w) :
    SameKinds (dict a) (dict b) := by
  intro path x y hx hy
  cases path with
  | nil =>
    obtain rfl := Option.some.inj hx
    obtain rfl := Option.some.inj hy
    rfl
  | cons k path =>
    obtain ⟨v, hv, hx⟩ := Option.bind_eq_some_iff.mp hx
    obtain ⟨w, hw, hy⟩ := Option.bind_eq_some_iff.mp hy
    exact h k v w hv hw path x y hx hy

end

end Registry.Value
