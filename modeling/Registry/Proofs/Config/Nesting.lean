import Registry.Proofs.Config.Assigning

/-!
# Nested overrides

Blocks are nested, each with an override whose values can be read. In the innermost one every
setting has the value, as it is read, of the innermost override that sets it, or that of the base if
none does. So an override counts once however often it is repeated, and overrides that set nothing
in common can change places.
-/

namespace Registry

namespace Scope

/-- Enters blocks, each inside the one before. -/
def enterAll (s : Scope) (os : List Override) : Except ScopeError Scope := os.foldlM enter s

/-- The current configuration inside nested blocks. -/
def inside (base : ConfigTree) (os : List Override) : Except ScopeError ConfigTree :=
  ((start base).enterAll os).map (·.current)

theorem map_current_enterAll (s : Scope) (os : List Override) :
    (s.enterAll os).map (·.current) = os.foldlM overridden s.current := by
  induction os generalizing s with
  | nil => rfl
  | cons o os ih =>
    have hcons : s.enterAll (o :: os) = s.enter o >>= fun s => s.enterAll os := rfl
    rw [hcons, enter, List.foldlM_cons]
    cases overridden s.current o with
    | error e => rfl
    | ok c => exact ih ⟨c, s.current :: s.outer⟩

/-- What is current inside depends on nothing but what was current before. -/
theorem inside_eq_foldlM (base : ConfigTree) (os : List Override) :
    inside base os = os.foldlM overridden base :=
  map_current_enterAll (start base) os

theorem foldlM_overridden_formed {base c : ConfigTree} {os : List Override}
    (hbase : base.WellFormed) (h : os.foldlM overridden base = .ok c) : c.WellFormed :=
  foldlM_preserves (fun _ _ _ _ hd h => overridden_formed hd h) hbase h

/-- Overrides whose values can be read are put over the base one after the other. -/
theorem foldlM_overridden_eq {base : ConfigTree} (hbase : base.WellFormed) {os : List ConfigTree}
    (hos : ∀ o ∈ os, o.Readable) :
    (os.map .tree).foldlM overridden base = .ok (os.foldl ConfigTree.overlaid base) := by
  induction os generalizing base with
  | nil => rfl
  | cons o os ih =>
    rw [List.forall_mem_cons] at hos
    rw [List.map_cons, List.foldlM_cons]
    exact bind_eq_ok.mpr
      ⟨_, overridden_eq hbase hos.1, ih (ConfigTree.overlaid_formed hbase hos.1) hos.2⟩

theorem foldlM_overridden_pair {c o p : ConfigTree} (hc : c.WellFormed) (ho : o.Readable)
    (hp : p.Readable) :
    [Override.tree o, .tree p].foldlM overridden c = .ok ((c.overlaid o).overlaid p) :=
  foldlM_overridden_eq hc (List.forall_mem_cons.mpr ⟨ho, List.forall_mem_singleton.mpr hp⟩)

/-- Two runs of blocks are the same between the same blocks if they are on every well-formed
configuration. -/
theorem inside_congr {base : ConfigTree} (hbase : base.WellFormed) {os ps : List Override}
    (h : ∀ c : ConfigTree, c.WellFormed → os.foldlM overridden c = ps.foldlM overridden c)
    (outer inner : List Override) :
    inside base (outer ++ os ++ inner) = inside base (outer ++ ps ++ inner) := by
  simp only [inside_eq_foldlM, List.foldlM_append]
  cases houter : outer.foldlM overridden base with
  | error e =>
    -- a refused block ends both runs before they differ
    rfl
  | ok c =>
    have hc := h c (foldlM_overridden_formed hbase houter)
    simp only [bind, Except.bind] at hc ⊢
    rw [hc]

end Scope

namespace ConfigTree

theorem foldl_overlaid_formed {c : ConfigTree} (hc : c.WellFormed) {os : List ConfigTree}
    (hos : ∀ o ∈ os, o.Readable) : (os.foldl overlaid c).WellFormed :=
  Scope.foldlM_overridden_formed hc (Scope.foldlM_overridden_eq hc hos)

/-- A setting that an override does not set keeps its value. -/
theorem value_overlaid_of_not_sets {c o : ConfigTree} (hc : c.WellFormed) {s : Section}
    {x : Setting} (hx : x ∈ s.settings) (h : o.sets s x = false) :
    (c.overlaid o).value s x = c.value s x := by
  rw [value_overlaid c o hx, h, if_neg Bool.false_ne_true, hc.coerced hx]

/-- A setting that no override sets keeps its value. -/
theorem value_foldl_overlaid {c : ConfigTree} (hc : c.WellFormed) {os : List ConfigTree}
    (hos : ∀ o ∈ os, o.Readable) {s : Section} {x : Setting} (hx : x ∈ s.settings)
    (h : ∀ o ∈ os, o.sets s x = false) : (os.foldl overlaid c).value s x = c.value s x := by
  induction os generalizing c with
  | nil => rfl
  | cons o os ih =>
    rw [List.forall_mem_cons] at hos h
    rw [List.foldl_cons, ih (overlaid_formed hc hos.1) hos.2 h.2,
      value_overlaid_of_not_sets hc hx h.1]

/-- The innermost override that sets a setting gives it its value. -/
theorem value_foldl_overlaid_of_sets {c o : ConfigTree} (hc : c.WellFormed)
    {outer inner : List ConfigTree} (hos : ∀ p ∈ outer ++ o :: inner, p.Readable) {s : Section}
    {x : Setting} (hx : x ∈ s.settings) (ho : o.sets s x = true)
    (hinner : ∀ p ∈ inner, p.sets s x = false) :
    ((outer ++ o :: inner).foldl overlaid c).value s x = o.coerced s x := by
  rw [List.forall_mem_append, List.forall_mem_cons] at hos
  have houter := foldl_overlaid_formed hc hos.1
  rw [List.foldl_append, List.foldl_cons,
    value_foldl_overlaid (overlaid_formed houter hos.2.1) hos.2.2 hx hinner,
    value_overlaid _ _ hx, ho, if_pos rfl]

/-- What was read once is read as it is. -/
theorem coerced_overlaid {c o : ConfigTree} (hc : c.WellFormed) (ho : o.Readable) {s : Section}
    {x : Setting} (hx : x ∈ s.settings) :
    (c.overlaid o).coerced s x = (if o.sets s x then o else c).coerced s x := by
  rw [(overlaid_formed hc ho).coerced hx, value_overlaid c o hx]

/-- Overriding twice with the same is overriding once. -/
theorem overlaid_overlaid {c o : ConfigTree} (hc : c.WellFormed) (ho : o.Readable) :
    (c.overlaid o).overlaid o = c.overlaid o := by
  refine filled_congr fun s x hx => ?_
  cases hos : o.sets s x with
  | true => rfl
  | false =>
    simp only [Bool.false_eq_true, if_false]
    rw [coerced_overlaid hc ho hx, hos, if_neg Bool.false_ne_true]

/-- Overrides that set nothing in common can change places. -/
theorem overlaid_comm {c o p : ConfigTree} (hc : c.WellFormed) (ho : o.Readable)
    (hp : p.Readable)
    (hdisjoint : ∀ s, ∀ x ∈ Section.settings s, ¬(o.sets s x = true ∧ p.sets s x = true)) :
    (c.overlaid o).overlaid p = (c.overlaid p).overlaid o := by
  refine filled_congr fun s x hx => ?_
  -- at most one of the two sets the setting
  cases hos : o.sets s x with
  | true =>
    have hps : p.sets s x = false := Bool.eq_false_iff.mpr fun h => hdisjoint s x hx ⟨hos, h⟩
    simp only [hps, Bool.false_eq_true, if_false, if_true]
    rw [coerced_overlaid hc ho hx, hos, if_pos rfl]
  | false =>
    simp only [Bool.false_eq_true, if_false]
    rw [coerced_overlaid hc hp hx]
    cases hps : p.sets s x with
    | true => rfl
    | false =>
      simp only [Bool.false_eq_true, if_false]
      rw [coerced_overlaid hc ho hx, hos, if_neg Bool.false_ne_true]

/-- Inside nested overrides: the value of every setting is that of the innermost override that sets
it, as it is read, and that of the base if none does. -/
structure Resolves (base : ConfigTree) (os : List ConfigTree) (c : ConfigTree) : Prop where
  innermost : ∀ outer o inner, os = outer ++ o :: inner → ∀ s, ∀ x ∈ Section.settings s,
    o.sets s x = true → (∀ p ∈ inner, p.sets s x = false) →
    ∃ v w, o.get? [s.name, x.name] = some (leaf v) ∧ x.kind.read v = .ok w
      ∧ c.get? [s.name, x.name] = some (leaf w)
  inherited : ∀ s, ∀ x ∈ Section.settings s, (∀ o ∈ os, o.sets s x = false) →
    c.get? [s.name, x.name] = base.get? [s.name, x.name]

theorem foldl_overlaid_resolves {base : ConfigTree} (hbase : base.WellFormed) {os : List ConfigTree}
    (hos : ∀ o ∈ os, o.Readable) : Resolves base os (os.foldl overlaid base) where
  innermost := by
    rintro outer o inner rfl s x hx ho hinner
    have hreadable := hos o (by simp)
    obtain ⟨v, hv, w, hw⟩ := hreadable.setting hx
    obtain ⟨w', hw', -⟩ := (foldl_overlaid_formed hbase hos).setting hx
    have hvalue := value_foldl_overlaid_of_sets hbase hos hx ho hinner
    rw [value_of_get? hw', coerced, value_of_get? hv, hw] at hvalue
    have hsame : w' = w := hvalue
    exact ⟨v, w, hv, hw, hsame ▸ hw'⟩
  inherited := by
    intro s x hx h
    obtain ⟨v, hv, -⟩ := hbase.setting hx
    obtain ⟨w, hw, -⟩ := (foldl_overlaid_formed hbase hos).setting hx
    have hvalue := value_foldl_overlaid hbase hos hx h
    rw [value_of_get? hw, value_of_get? hv] at hvalue
    rw [hw, hv, hvalue]

end ConfigTree

namespace Scope

/-- An override sets the sections that it was made with and what was assigned on it. On a
well-formed base, overrides whose values can be read can always be nested, and every setting comes
from the innermost that sets it. Among any other blocks, an override that follows itself changes
nothing, and two that set nothing in common can change places. -/
theorem inside_resolves {base : ConfigTree} (hbase : base.WellFormed) :
    (∀ (inputs : ConfigTree.ModelInputs) (t o : ConfigTree) (h : Host) (as : List Assignment),
      ConfigTree.ofInputs .config inputs = .ok t → t.assignAll h as = .ok o →
      ∀ s x, o.sets s x
        = ((ConfigTree.input? inputs s.name).isSome || as.any (·.covers s x)))
    ∧ (∀ os : List ConfigTree, (∀ o ∈ os, o.Readable) →
      ∃ c, inside base (os.map .tree) = .ok c ∧ ConfigTree.Resolves base os c)
    ∧ (∀ (outer inner : List Override) (o : ConfigTree), o.Readable →
      inside base (outer ++ [.tree o, .tree o] ++ inner)
        = inside base (outer ++ [.tree o] ++ inner))
    ∧ (∀ (outer inner : List Override) (o p : ConfigTree), o.Readable → p.Readable →
      (∀ s, ∀ x ∈ Section.settings s, ¬(o.sets s x = true ∧ p.sets s x = true)) →
      inside base (outer ++ [.tree o, .tree p] ++ inner)
        = inside base (outer ++ [.tree p, .tree o] ++ inner)) := by
  refine ⟨fun inputs t o h as ht ho => ConfigTree.sets_composed ht ho, fun os hos => ?_,
    fun outer inner o ho => ?_, fun outer inner o p ho hp hdisjoint => ?_⟩
  · refine ⟨_, ?_, ConfigTree.foldl_overlaid_resolves hbase hos⟩
    rw [inside_eq_foldlM, foldlM_overridden_eq hbase hos]
  · refine inside_congr hbase (fun c hc => ?_) outer inner
    have honce : [Override.tree o].foldlM overridden c = .ok (c.overlaid o) :=
      foldlM_overridden_eq hc (List.forall_mem_singleton.mpr ho)
    rw [foldlM_overridden_pair hc ho ho, honce, ConfigTree.overlaid_overlaid hc ho]
  · refine inside_congr hbase (fun c hc => ?_) outer inner
    rw [foldlM_overridden_pair hc ho hp, foldlM_overridden_pair hc hp ho,
      ConfigTree.overlaid_comm hc ho hp hdisjoint]

/-- How long a read may take. -/
def readTimeout : Setting := ⟨"read_timeout_seconds", .positiveFloat, .float 60⟩

theorem readTimeout_mem : readTimeout ∈ Section.database.settings := by
  simp [readTimeout, Section.settings]

theorem readTimeout_of_five : readTimeout.kind.read (.int 5) = .ok (.float 5) := by
  decide +kernel

/-- The standard configuration, on which five seconds are assigned as an integer. -/
def hurried : ConfigTree :=
  .model .config
    [(Section.logging.name, .standardSection .logging),
      (Section.database.name, .model (.part .database)
        (ConfigTree.putField (Section.database.settings.map fun x => (x.name, .leaf x.default))
          readTimeout.name (.leaf (.int 5))) [readTimeout.name]),
      (Section.app.name, .standardSection .app)] []

theorem hurried_assigned :
    ConfigTree.standard.assignAll ⟨[], []⟩
      [.single .database readTimeout readTimeout_mem (.leaf (.int 5))] = .ok hurried := by
  rfl

theorem hurried_readable : hurried.Readable := by
  refine ConfigTree.readable_assignAll ConfigTree.standard_formed.readable ?_ hurried_assigned
  exact List.forall_mem_singleton.mpr ⟨_, rfl, _, readTimeout_of_five⟩

/-- A configuration whose application is given, for the environment of tests. -/
def staged : ConfigTree :=
  .model .config
    [(Section.logging.name, .standardSection .logging),
      (Section.database.name, .standardSection .database),
      (Section.app.name, .model (.part .app)
        [("name", .leaf (.text "identity-store")), ("environment", .leaf (.text "test"))]
        ["environment"])]
    [Section.app.name]

theorem staged_formed : staged.WellFormed := by
  have h : ConfigTree.ofInputs .config
      [(Section.app.name, .leaf (.dict [(.text "environment", .text "test")]))] = .ok staged := by
    rfl
  refine ConfigTree.ofInputs_formed (fun n u hu => ?_) h
  rw [ConfigTree.input?_cons] at hu
  split at hu <;> cases hu
  exact ⟨_, rfl⟩

theorem inside_resolves_staged :
    ConfigTree.standard.WellFormed
    ∧ hurried.sets .database readTimeout = true
    ∧ (∃ c, inside .standard [.tree hurried, .tree staged] = .ok c
      ∧ c.get? [Section.database.name, readTimeout.name] = some (.leaf (.float 5)))
    ∧ inside .standard [.nothing, .tree hurried, .tree hurried]
      = inside .standard [.nothing, .tree hurried]
    ∧ inside .standard [.tree hurried, .tree staged]
      = inside .standard [.tree staged, .tree hurried] := by
  have hstaged := staged_formed.readable
  obtain ⟨hsets, hruns, htwice, hswap⟩ := inside_resolves ConfigTree.standard_formed
  have hset : hurried.sets .database readTimeout = true :=
    (hsets [] .standard hurried ⟨[], []⟩ _ (by rfl) hurried_assigned .database readTimeout).trans
      (by decide +kernel)
  obtain ⟨c, hc, hresolves⟩ := hruns [hurried, staged]
    (List.forall_mem_cons.mpr ⟨hurried_readable, List.forall_mem_singleton.mpr hstaged⟩)
  obtain ⟨v, w, hv, hw, hget⟩ := hresolves.innermost [] hurried [staged] rfl .database readTimeout
    readTimeout_mem hset (by decide +kernel)
  have hfive : hurried.get? [Section.database.name, readTimeout.name] = some (.leaf (.int 5)) := by
    rfl
  cases hfive.symm.trans hv
  cases readTimeout_of_five.symm.trans hw
  have hdisjoint : ∀ s, ∀ x ∈ Section.settings s,
      ¬(hurried.sets s x = true ∧ staged.sets s x = true) := by
    intro s
    cases s <;> decide +kernel
  exact ⟨ConfigTree.standard_formed, hset, ⟨c, hc, hget⟩,
    htwice [.nothing] [] hurried hurried_readable,
    hswap [] [] hurried staged hurried_readable hstaged hdisjoint⟩

end Scope

end Registry
