import Mathlib.Data.List.Nodup
import Registry.Environment

/-!
# Overrides at once

The variables of a mode override others one after the other, in an environment that is read and
changed in turn. Since all sources are read first and no target is set twice, this is one assignment
of all targets at once (`Environment.applyOverrides_simultaneous`), whatever the order of the
variables is and even where a target is the source of another override.
-/

namespace Registry.Environment

variable {env : Environment} {mode name value n : Text}

/-! ## Looking up -/

/-- No name twice. -/
def Distinct (env : Environment) : Prop := (env.map Prod.fst).Nodup

instance (env : Environment) : Decidable env.Distinct := inferInstanceAs (Decidable (List.Nodup _))

theorem get?_cons (m v : Text) (env : Environment) (n : Text) :
    get? ((m, v) :: env) n = if m = n then some v else get? env n := by
  by_cases h : m = n
  · simp [get?, h]
  · simp [get?, h]

theorem get?_eq_none_iff : env.get? n = none ↔ n ∉ env.map Prod.fst := by
  induction env with
  | nil => simp [get?]
  | cons e rest ih =>
    obtain ⟨m, v⟩ := e
    rw [get?_cons, List.map_cons, List.mem_cons, not_or]
    by_cases h : m = n
    · simp [h]
    · simp [h, Ne.symm h, ih]

theorem get?_eq_some_iff (h : env.Distinct) {v : Text} : env.get? n = some v ↔ (n, v) ∈ env := by
  induction env with
  | nil => simp [get?]
  | cons e rest ih =>
    obtain ⟨m, w⟩ := e
    obtain ⟨hm, hrest⟩ := List.nodup_cons.mp h
    rw [get?_cons, List.mem_cons, Prod.mk.injEq, ← ih hrest]
    by_cases hmn : m = n
    · subst hmn
      have hnone : get? rest m = none := get?_eq_none_iff.mpr hm
      simp [hnone, eq_comm]
    · simp [hmn, Ne.symm hmn]

/-- What is looked up does not depend on the order of the variables. -/
theorem get?_perm {env' : Environment} (h : env.Distinct) (hperm : env'.Perm env) (n : Text) :
    env'.get? n = env.get? n := by
  have h' : env'.Distinct := (hperm.map Prod.fst).nodup_iff.mpr h
  apply Option.ext
  intro v
  rw [get?_eq_some_iff h, get?_eq_some_iff h', hperm.mem_iff]

/-! ## Setting one variable after the other -/

theorem get?_set (env : Environment) (name value n : Text) :
    (env.set name value).get? n = if name = n then some value else env.get? n := by
  induction env with
  | nil => exact get?_cons name value [] n
  | cons e rest ih =>
    obtain ⟨m, w⟩ := e
    rw [set]
    by_cases hm : m = name
    · subst hm
      rw [if_pos rfl, get?_cons, get?_cons]
      split <;> rfl
    · rw [if_neg hm, get?_cons, get?_cons, ih]
      by_cases hn : m = n
      · subst hn
        simp [Ne.symm hm]
      · simp [hn]

/-- Setting a variable to the value that it has changes nothing. -/
theorem set_eq_self (h : env.get? name = some value) : env.set name value = env := by
  induction env with
  | nil => cases h
  | cons e rest ih =>
    obtain ⟨m, w⟩ := e
    rw [get?_cons] at h
    rw [set]
    by_cases hm : m = name
    · rw [if_pos hm] at h ⊢
      cases h
      rfl
    · rw [if_neg hm] at h ⊢
      rw [ih h]

theorem Distinct.set (h : env.Distinct) (name value : Text) : (env.set name value).Distinct := by
  induction env with
  | nil => exact List.nodup_singleton name
  | cons e rest ih =>
    obtain ⟨m, w⟩ := e
    obtain ⟨hm, hrest⟩ := List.nodup_cons.mp h
    rw [Environment.set]
    by_cases hname : m = name
    · rw [if_pos hname]
      exact h
    · rw [if_neg hname]
      refine List.nodup_cons.mpr ⟨?_, ih hrest⟩
      rw [← get?_eq_none_iff, get?_set, if_neg (Ne.symm hname)]
      exact get?_eq_none_iff.mpr hm

theorem setAll_cons (h : name ≠ []) (rest : List (Text × Text)) :
    env.setAll ((name, value) :: rest) = (env.set name value).setAll rest := by
  rw [setAll, if_neg (by simpa using h)]

theorem Distinct.setAll (h : env.Distinct) (assignments : List (Text × Text)) :
    (env.setAll assignments).1.Distinct := by
  induction assignments generalizing env with
  | nil => exact h
  | cons a rest ih =>
    obtain ⟨name, value⟩ := a
    by_cases hname : name = []
    · subst hname
      exact h
    · rw [setAll_cons hname]
      exact ih (h.set name value)

section Assignments

variable {assignments : List (Text × Text)} (hnamed : ∀ a ∈ assignments, a.1 ≠ [])

include hnamed

theorem setAll_done : (env.setAll assignments).2 = true := by
  induction assignments generalizing env with
  | nil => rfl
  | cons a rest ih =>
    obtain ⟨hname, hrest⟩ := List.forall_mem_cons.mp hnamed
    rw [setAll_cons hname]
    exact ih hrest

/-- Assignments to distinct names act at once: no later one changes what an earlier one has set. -/
theorem get?_setAll (hdistinct : Distinct assignments) (n : Text) :
    (env.setAll assignments).1.get? n = (get? assignments n).or (env.get? n) := by
  induction assignments generalizing env with
  | nil => rfl
  | cons a rest ih =>
    obtain ⟨m, v⟩ := a
    obtain ⟨hname, hrest⟩ := List.forall_mem_cons.mp hnamed
    obtain ⟨hm, hdistinct⟩ := List.nodup_cons.mp hdistinct
    rw [setAll_cons hname, ih hrest hdistinct, get?_set, get?_cons]
    by_cases hmn : m = n
    · subst hmn
      have hnone : get? rest m = none := get?_eq_none_iff.mpr hm
      rw [hnone, if_pos rfl, if_pos rfl]
      rfl
    · rw [if_neg hmn, if_neg hmn]

/-- Assignments of the values that the variables have change nothing. -/
theorem setAll_eq_self (h : ∀ a ∈ assignments, env.get? a.1 = some a.2) :
    env.setAll assignments = (env, true) := by
  induction assignments with
  | nil => rfl
  | cons a rest ih =>
    obtain ⟨hname, hrest⟩ := List.forall_mem_cons.mp hnamed
    obtain ⟨ha, h⟩ := List.forall_mem_cons.mp h
    rw [setAll_cons hname, set_eq_self ha]
    exact ih hrest h

end Assignments

/-! ## The overrides of a mode -/

theorem mem_overrides :
    (n, value) ∈ env.overrides mode ↔ (overridePrefix mode ++ n, value) ∈ env := by
  unfold overrides
  rw [List.mem_filterMap]
  constructor
  · rintro ⟨⟨m, v⟩, hm, h⟩
    obtain ⟨target, htarget, heq⟩ := Option.map_eq_some_iff.mp h
    cases heq
    rwa [← Text.dropPrefix?_eq_some_iff.mp htarget]
  · intro h
    refine ⟨_, h, ?_⟩
    simp [Text.dropPrefix?_eq_some_iff]

/-- Distinct sources have distinct targets. -/
theorem Distinct.overrides (h : env.Distinct) (mode : Text) :
    Distinct (env.overrides mode) := by
  have hpairs : env.Pairwise fun a b => a.1 ≠ b.1 := List.pairwise_map.mp h
  apply List.pairwise_map.mpr
  apply hpairs.filterMap
  intro a b hab x hx y hy htargets
  obtain ⟨s, hs, rfl⟩ := Option.map_eq_some_iff.mp hx
  obtain ⟨t, ht, rfl⟩ := Option.map_eq_some_iff.mp hy
  apply hab
  rw [Text.dropPrefix?_eq_some_iff.mp hs, Text.dropPrefix?_eq_some_iff.mp ht]
  exact congrArg _ htargets

theorem get?_overrides (h : env.Distinct) (mode n : Text) :
    get? (env.overrides mode) n = env.get? (overridePrefix mode ++ n) := by
  apply Option.ext
  intro v
  rw [get?_eq_some_iff (h.overrides mode), get?_eq_some_iff h, mem_overrides]

/-- Every target has a name, unless a variable is named like the beginning alone. -/
theorem overrides_named (h : env.get? (overridePrefix mode) = none) :
    ∀ a ∈ env.overrides mode, a.1 ≠ [] := by
  rintro ⟨n, v⟩ ha rfl
  have hmem := mem_overrides.mp ha
  rw [List.append_nil] at hmem
  exact get?_eq_none_iff.mp h (List.mem_map_of_mem hmem)

/-- The value of a variable once a mode has overridden: that of its source, or else its own. -/
theorem get?_applyOverrides (hdistinct : env.Distinct)
    (hunnamed : env.get? (overridePrefix mode) = none) (n : Text) :
    (env.applyOverrides mode).1.get? n
      = (env.get? (overridePrefix mode ++ n)).or (env.get? n) := by
  unfold applyOverrides
  rw [get?_setAll (overrides_named hunnamed) (hdistinct.overrides mode),
    get?_overrides hdistinct]

/-- Where no source is the target of another one, the overrides have nothing left to change: the
sources are as they were, and every target has the value of its own. -/
theorem applyOverrides_again (hdistinct : env.Distinct)
    (hunnamed : env.get? (overridePrefix mode) = none)
    (hsources : ∀ e ∈ env, ¬overridePrefix mode ++ overridePrefix mode <+: e.1) :
    (env.applyOverrides mode).1.applyOverrides mode = ((env.applyOverrides mode).1, true) := by
  have hsource : ∀ n, env.get? (overridePrefix mode ++ (overridePrefix mode ++ n)) = none := by
    intro n
    rw [get?_eq_none_iff]
    intro hmem
    obtain ⟨e, he, hname⟩ := List.mem_map.mp hmem
    apply hsources e he
    rw [hname, ← List.append_assoc]
    exact List.prefix_append _ _
  have hkept : ∀ n, (env.applyOverrides mode).1.get? (overridePrefix mode ++ n)
      = env.get? (overridePrefix mode ++ n) := by
    intro n
    rw [get?_applyOverrides hdistinct hunnamed, hsource, Option.none_or]
  have hdistinct' : (env.applyOverrides mode).1.Distinct := hdistinct.setAll _
  have hunnamed' : (env.applyOverrides mode).1.get? (overridePrefix mode) = none := by
    rw [← hunnamed]
    simpa using hkept []
  apply setAll_eq_self (overrides_named hunnamed')
  rintro ⟨n, v⟩ ha
  have hv : env.get? (overridePrefix mode ++ n) = some v := by
    rw [← hkept, get?_eq_some_iff hdistinct', ← mem_overrides]
    exact ha
  rw [get?_applyOverrides hdistinct hunnamed, hv]
  rfl

/-- The overrides of a mode act as one simultaneous assignment: every variable gets the value that
its source had before, and one without a source keeps its own. A second time they change nothing,
unless a source is the target of another one. -/
theorem applyOverrides_simultaneous (hdistinct : env.Distinct)
    (hunnamed : env.get? (overridePrefix mode) = none) :
    (env.applyOverrides mode).2 = true
    ∧ (∀ n, (env.applyOverrides mode).1.get? n
        = (env.get? (overridePrefix mode ++ n)).or (env.get? n))
    ∧ (∀ env' : Environment, env'.Perm env → (env'.applyOverrides mode).2 = true
        ∧ ∀ n, (env'.applyOverrides mode).1.get? n = (env.applyOverrides mode).1.get? n)
    ∧ ((∀ e ∈ env, ¬overridePrefix mode ++ overridePrefix mode <+: e.1) →
        (env.applyOverrides mode).1.applyOverrides mode = ((env.applyOverrides mode).1, true)) := by
  refine ⟨setAll_done (overrides_named hunnamed), get?_applyOverrides hdistinct hunnamed, ?_, ?_⟩
  · intro env' hperm
    have hdistinct' : env'.Distinct := (hperm.map Prod.fst).nodup_iff.mpr hdistinct
    have hunnamed' : env'.get? (overridePrefix mode) = none := by
      rw [get?_perm hdistinct hperm, hunnamed]
    refine ⟨setAll_done (overrides_named hunnamed'), ?_⟩
    intro n
    rw [get?_applyOverrides hdistinct' hunnamed', get?_applyOverrides hdistinct hunnamed,
      get?_perm hdistinct hperm, get?_perm hdistinct hperm]
  · intro hsources
    exact applyOverrides_again hdistinct hunnamed hsources

/-- An environment in which `TEST_A` is the source of one override and the target of another. -/
def chained : Environment := [("TEST_TEST_A", "1"), ("A", "3"), ("TEST_A", "2")]

/-- An environment with a single override, of a variable that is not there yet. -/
def unchained : Environment := [("B", "4"), ("TEST_A", "2")]

theorem applyOverrides_simultaneous_chained :
    chained.Distinct ∧ chained.get? (overridePrefix "test") = none
    ∧ (chained.applyOverrides "test").1.get? "A" = some "2"
    ∧ (chained.applyOverrides "test").1.get? "TEST_A" = some "1"
    ∧ unchained.Distinct ∧ unchained.get? (overridePrefix "test") = none
    ∧ (∀ e ∈ unchained, ¬overridePrefix "test" ++ overridePrefix "test" <+: e.1)
    ∧ (unchained.applyOverrides "test").1.applyOverrides "test"
      = ((unchained.applyOverrides "test").1, true) := by
  have hchained : chained.Distinct := by decide +kernel
  have hchainedPrefix : chained.get? (overridePrefix "test") = none := by decide +kernel
  have hunchained : unchained.Distinct := by decide +kernel
  have hunchainedPrefix : unchained.get? (overridePrefix "test") = none := by decide +kernel
  have hsources : ∀ e ∈ unchained, ¬overridePrefix "test" ++ overridePrefix "test" <+: e.1 := by
    decide +kernel
  obtain ⟨-, hvalue, -, -⟩ := applyOverrides_simultaneous hchained hchainedPrefix
  obtain ⟨-, -, -, hagain⟩ := applyOverrides_simultaneous hunchained hunchainedPrefix
  refine ⟨hchained, hchainedPrefix, ?_, ?_, hunchained, hunchainedPrefix, hsources,
    hagain hsources⟩
  · rw [hvalue]
    decide +kernel
  · rw [hvalue]
    decide +kernel

end Registry.Environment
