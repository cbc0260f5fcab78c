import Mathlib.Data.List.Nodup
import Registry.DatabaseUrl
import Registry.Proofs.Text.Cutting
import Registry.Proofs.Text.Percent

/-!
# The query of an address

Reading a query gives keys that differ, with values that are not empty (`readQuery_formed`). What is
written of such a query is read back, in the order of its keys (`readQuery_joined`).
-/

namespace Registry.DatabaseUrl

/-- The keys differ, and each has values, none of them empty. -/
structure QueryFormed (q : List (Text × List Text)) : Prop where
  keys : (q.map (·.1)).Nodup
  values : ∀ e ∈ q, e.2 ≠ [] ∧ ∀ v ∈ e.2, v ≠ []

theorem QueryFormed.perm {q q' : List (Text × List Text)} (h : QueryFormed q) (hp : q'.Perm q) :
    QueryFormed q' where
  keys := (hp.map (·.1)).nodup_iff.mpr h.keys
  values e he := h.values e (hp.mem_iff.mp he)

/-- No key and no value of a query has surrogates. -/
def QueryEncodable (q : List (Text × List Text)) : Prop :=
  ∀ e ∈ q, e.1.NoSurrogates ∧ ∀ v ∈ e.2, v.NoSurrogates

instance (q : List (Text × List Text)) : Decidable (QueryEncodable q) :=
  inferInstanceAs (Decidable (∀ e ∈ q, _))

theorem QueryFormed.nil : QueryFormed [] :=
  ⟨List.nodup_nil, fun _ he => absurd he List.not_mem_nil⟩

/-! ## Adding values -/

section AddValue

variable {q : List (Text × List Text)} {k : Text}

theorem mem_keys_addValue {key v : Text} :
    k ∈ (addValue q key v).map (·.1) ↔ k = key ∨ k ∈ q.map (·.1) := by
  induction q with
  | nil => simp [addValue]
  | cons e q ih =>
    rw [addValue]
    split
    · next h => simp [h]
    · simp only [List.map_cons, List.mem_cons, ih]
      exact or_left_comm

theorem QueryFormed.addValue (h : QueryFormed q) {v : Text} (hv : v ≠ []) :
    QueryFormed (addValue q k v) := by
  induction q with
  | nil =>
    refine ⟨List.nodup_singleton k, ?_⟩
    intro e he
    obtain rfl := List.mem_singleton.mp he
    exact ⟨List.cons_ne_nil v [], fun w hw => List.mem_singleton.mp hw ▸ hv⟩
  | cons e q ih =>
    obtain ⟨hkey, hkeys⟩ := List.nodup_cons.mp h.keys
    obtain ⟨⟨hne, hfilled⟩, hvalues⟩ := List.forall_mem_cons.mp h.values
    rw [DatabaseUrl.addValue]
    split
    · refine ⟨h.keys, List.forall_mem_cons.mpr ⟨⟨?_, ?_⟩, hvalues⟩⟩
      · exact List.append_ne_nil_of_left_ne_nil hne _
      · intro w hw
        rcases List.mem_append.mp hw with hw | hw
        · exact hfilled w hw
        · exact List.mem_singleton.mp hw ▸ hv
    · next hdiffer =>
      have hq := ih ⟨hkeys, hvalues⟩
      refine ⟨List.nodup_cons.mpr ⟨?_, hq.keys⟩, List.forall_mem_cons.mpr ⟨⟨hne, hfilled⟩, hq.values⟩⟩
      intro hmem
      exact (mem_keys_addValue.mp hmem).elim hdiffer hkey

theorem addValue_new (h : k ∉ q.map (·.1)) (v : Text) : addValue q k v = q ++ [(k, [v])] := by
  induction q with
  | nil => rfl
  | cons e q ih =>
    rw [List.map_cons, List.mem_cons, not_or] at h
    rw [addValue, if_neg (Ne.symm h.1), ih h.2, List.cons_append]

theorem addValue_last (h : k ∉ q.map (·.1)) (vs : List Text) (v : Text) :
    addValue (q ++ [(k, vs)]) k v = q ++ [(k, vs ++ [v])] := by
  induction q with
  | nil => exact if_pos rfl
  | cons e q ih =>
    rw [List.map_cons, List.mem_cons, not_or] at h
    rw [List.cons_append, addValue, if_neg (Ne.symm h.1), ih h.2, List.cons_append]

/-- The fields of a query: each key with each of its values. -/
def fieldsOf (q : List (Text × List Text)) : List (Text × Text) :=
  q.flatMap fun e => e.2.map fun v => (e.1, v)

/-- Fields added one after the other. -/
def addAll (q : List (Text × List Text)) (fields : List (Text × Text)) : List (Text × List Text) :=
  fields.foldl (fun q e => addValue q e.1 e.2) q

theorem addAll_values (h : k ∉ q.map (·.1)) (vs ws : List Text) :
    addAll (q ++ [(k, vs)]) (ws.map fun w => (k, w)) = q ++ [(k, vs ++ ws)] := by
  induction ws generalizing vs with
  | nil => rw [List.append_nil]; rfl
  | cons w ws ih =>
    rw [List.map_cons, addAll, List.foldl_cons, addValue_last h, ← addAll, ih, List.append_assoc,
      List.singleton_append]

theorem addAll_fieldsOf {q' : List (Text × List Text)} (h : QueryFormed (q ++ q')) :
    addAll q (fieldsOf q') = q ++ q' := by
  induction q' generalizing q with
  | nil => rw [List.append_nil]; rfl
  | cons e q' ih =>
    obtain ⟨k, vs⟩ := e
    have hk : k ∉ q.map (·.1) := by
      have hkeys := h.keys
      rw [List.map_append, List.nodup_append] at hkeys
      exact fun hmem => hkeys.2.2 k hmem k List.mem_cons_self rfl
    have hvs := (h.values (k, vs) (List.mem_append_right q List.mem_cons_self)).1
    obtain ⟨v, ws, rfl⟩ := List.exists_cons_of_ne_nil hvs
    have happend : q ++ [(k, v :: ws)] ++ q' = q ++ (k, v :: ws) :: q' := by
      rw [List.append_assoc, List.singleton_append]
    have hfirst : addAll q ((v :: ws).map fun w => (k, w)) = q ++ [(k, v :: ws)] := by
      rw [List.map_cons, addAll, List.foldl_cons, addValue_new hk, ← addAll, addAll_values hk,
        List.singleton_append]
    rw [fieldsOf, List.flatMap_cons, ← fieldsOf, addAll, List.foldl_append, ← addAll, ← addAll,
      hfirst, ih (happend ▸ h), happend]

end AddValue

/-! ## What is read -/

theorem readField?_ne_nil {t : Text} {e : Text × Text} (h : readField? t = some e) : e.2 ≠ [] := by
  unfold readField? at h
  split at h
  · next key value _ =>
    split at h
    · cases h
    · next hvalue =>
      rw [← Option.some.inj h]
      exact Percent.decodeQuery_ne_nil (by simpa using hvalue)
  · cases h

/-- A query that is read is formed. -/
theorem readQuery_formed (t : Text) : QueryFormed (readQuery t) := by
  have hfields : ∀ e ∈ (Text.splitOn (.ofChar '&') t).filterMap readField?, e.2 ≠ [] := by
    intro e he
    obtain ⟨s, -, hs⟩ := List.mem_filterMap.mp he
    exact readField?_ne_nil hs
  unfold readQuery
  refine List.foldlRecOn _ _ QueryFormed.nil ?_
  intro q hq e he
  exact hq.addValue (hfields e he)

theorem QueryEncodable.addValue {q : List (Text × List Text)} {k v : Text} (h : QueryEncodable q)
    (hk : k.NoSurrogates) (hv : v.NoSurrogates) : QueryEncodable (addValue q k v) := by
  have hsingle : ∀ w ∈ [v], w.NoSurrogates := List.forall_mem_singleton.mpr hv
  induction q with
  | nil => exact List.forall_mem_singleton.mpr ⟨hk, hsingle⟩
  | cons e q ih =>
    obtain ⟨he, hq⟩ := List.forall_mem_cons.mp h
    rw [DatabaseUrl.addValue]
    split
    · exact List.forall_mem_cons.mpr ⟨⟨he.1, List.forall_mem_append.mpr ⟨he.2, hsingle⟩⟩, hq⟩
    · exact List.forall_mem_cons.mpr ⟨he, ih hq⟩

/-- A query that is read from a text without surrogates has none. -/
theorem readQuery_encodable {t : Text} (h : t.NoSurrogates) : QueryEncodable (readQuery t) := by
  have hfields : ∀ e ∈ (Text.splitOn (.ofChar '&') t).filterMap readField?,
      e.1.NoSurrogates ∧ e.2.NoSurrogates := by
    intro e he
    obtain ⟨s, hs, he⟩ := List.mem_filterMap.mp he
    have hclean : s.NoSurrogates := fun c hc => h c (Text.mem_of_mem_splitOn hs hc)
    unfold readField? at he
    split at he
    · next key value hsplit =>
      rw [Text.splitFirst?_eq_some hsplit] at hclean
      obtain ⟨hkey, hrest⟩ := List.forall_mem_append.mp hclean
      obtain ⟨-, hvalue⟩ := List.forall_mem_append.mp hrest
      split at he
      · cases he
      · rw [← Option.some.inj he]
        exact ⟨Percent.decodeQuery_noSurrogates hkey, Percent.decodeQuery_noSurrogates hvalue⟩
    · cases he
  unfold readQuery
  refine List.foldlRecOn _ _ (fun e he => absurd he List.not_mem_nil) ?_
  intro q hq e he
  exact hq.addValue (hfields e he).1 (hfields e he).2

/-! ## What is written -/

def fieldText (e : Text × Text) : Text :=
  Percent.encodeQuery e.1 ++ Text.ofString "=" ++ Percent.encodeQuery e.2

/-- Fields as they are written, one after the other. -/
def joined (fields : List (Text × Text)) : Text :=
  ((fields.map fieldText).intersperse (Text.ofString "&")).flatten

/-- A character that no encoding leaves alone and that separates nothing in a query does not occur
in a field. -/
theorem is_false_of_mem_fieldText {x : Char} {e : Text × Text} {c : CodePoint}
    (hx : Percent.isUnreserved (.ofChar x) = false) (hsigns : x ∉ ['+', '%', '='])
    (h : c ∈ fieldText e) : c.is x = false := by
  simp only [List.mem_cons, List.not_mem_nil, or_false, not_or] at hsigns
  obtain ⟨hplus, hpercent, hequals⟩ := hsigns
  rcases List.mem_append.mp h with h | h
  · rcases List.mem_append.mp h with h | h
    · exact Percent.is_false_of_mem_encodeQuery hx hplus hpercent h
    · obtain rfl := List.mem_singleton.mp h
      rw [CodePoint.is_eq_false_iff]
      exact fun e => hequals (Char.toNat_inj.mp e).symm
  · exact Percent.is_false_of_mem_encodeQuery hx hplus hpercent h

theorem encodeQuery_ne_nil {t : Text} (h : t.NoSurrogates) (hne : t ≠ []) :
    Percent.encodeQuery t ≠ [] := by
  intro hnil
  have hempty : Percent.decodeQuery (Percent.encodeQuery []) = [] :=
    Percent.decodeQuery_encoded fun c hc => absurd hc List.not_mem_nil
  exact hne ((Percent.decodeQuery_encoded h).symm.trans ((congrArg _ hnil).trans hempty))

theorem readField?_fieldText {e : Text × Text} (hkey : e.1.NoSurrogates)
    (hvalue : e.2.NoSurrogates) (hne : e.2 ≠ []) : readField? (fieldText e) = some e := by
  have hequals : ∀ c ∈ Percent.encodeQuery e.1, c.is '=' = false := fun c hc =>
    Percent.is_false_of_mem_encodeQuery (by decide) (by decide) (by decide) hc
  have hsplit : Text.splitFirst? (Text.ofString "=") (fieldText e)
      = some (Percent.encodeQuery e.1, Percent.encodeQuery e.2) := by
    rw [fieldText, List.append_assoc]
    exact Text.splitFirst?_append hequals _
  unfold readField?
  rw [hsplit]
  simp only
  rw [if_neg (by simpa using encodeQuery_ne_nil hvalue hne), Percent.decodeQuery_encoded hkey,
    Percent.decodeQuery_encoded hvalue]

/-- A query that is formed is read back. -/
theorem readQuery_joined {q : List (Text × List Text)} (h : QueryFormed q) (hs : QueryEncodable q)
    (hne : q ≠ []) : readQuery (joined (fieldsOf q)) = q := by
  have hfields : fieldsOf q ≠ [] := by
    obtain ⟨e, q', rfl⟩ := List.exists_cons_of_ne_nil hne
    rw [fieldsOf, List.flatMap_cons]
    refine List.append_ne_nil_of_left_ne_nil ?_ _
    rw [ne_eq, List.map_eq_nil_iff]
    exact (h.values e List.mem_cons_self).1
  have hread : ∀ e ∈ fieldsOf q, readField? (fieldText e) = some e := by
    intro e he
    obtain ⟨⟨k, vs⟩, hq, he⟩ := List.mem_flatMap.mp he
    obtain ⟨v, hv, rfl⟩ := List.mem_map.mp he
    exact readField?_fieldText (hs _ hq).1 ((hs _ hq).2 v hv) ((h.values _ hq).2 v hv)
  have hback : ((fieldsOf q).map fieldText).filterMap readField? = fieldsOf q := by
    rw [List.filterMap_map]
    exact (List.filterMap_congr hread).trans List.filterMap_some
  unfold readQuery joined
  rw [show Text.ofString "&" = [.ofChar '&'] from rfl, Text.splitOn_intersperse, hback]
  · exact addAll_fieldsOf (q := []) h
  · simpa using hfields
  · intro p hp c hc
    obtain ⟨e, -, rfl⟩ := List.mem_map.mp hp
    exact is_false_of_mem_fieldText (by decide) (by decide) hc

end Registry.DatabaseUrl
