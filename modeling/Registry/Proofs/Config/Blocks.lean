import Registry.Proofs.Config.Formed

/-!
# Work in blocks

Work is done in nested and consecutive blocks, each with an override of the current configuration,
and it may fail anywhere in them. However it ends, the scope afterwards is the one before: every
block is left as it was entered. A block whose override is refused does nothing at all, and if the
first configuration is well-formed, all are that are ever current.
-/

namespace Registry.Scope

/-- How work ends: it is done, it fails, or a block in it is refused. -/
inductive Ending
  | done
  | failed (message : Text)
  | refused (e : ScopeError)

/-- Work that is done in blocks. It may look at the current configuration and go on as that says,
fail, be followed by more work, and be replaced by other work if it is not done. -/
inductive Work
  | idle
  | fail (message : Text)
  | look (next : ConfigTree → Work)
  | seq (first next : Work)
  | rescue (tried other : Work)
  | block (o : Override) (body : Work)

/-- How work went: its end, the scope after it, and the configurations that were current. -/
structure Course where
  ending : Ending
  scope : Scope
  seen : List ConfigTree

/-- More work after what was done. -/
def Course.andThen (c : Course) (next : Scope → Course) : Course :=
  let d := next c.scope
  ⟨d.ending, d.scope, c.seen ++ d.seen⟩

/-- Does work in a scope. A block that is entered is left however its body ends. -/
def Work.run : Work → Scope → Course
  | idle, s => ⟨.done, s, [s.current]⟩
  | fail message, s => ⟨.failed message, s, [s.current]⟩
  | look next, s => (next s.current).run s
  | seq first next, s =>
    let c := first.run s
    match c.ending with
    | .done => c.andThen next.run
    | _ => c
  | rescue tried other, s =>
    let c := tried.run s
    match c.ending with
    | .done => c
    | _ => c.andThen other.run
  | block o body, s =>
    match s.enter o with
    | .error e => ⟨.refused e, s, [s.current]⟩
    | .ok inner =>
      let c := body.run inner
      let left := c.scope.leave?.getD c.scope
      ⟨c.ending, left, s.current :: c.seen ++ [left.current]⟩

/-- A block that is entered is left for the scope around it. -/
theorem leave?_of_enter {s inner : Scope} {o : Override} (h : s.enter o = .ok inner) :
    inner.leave? = some s := by
  obtain ⟨c, -, rfl⟩ := map_eq_ok.mp h
  rfl

theorem enter_formed {s inner : Scope} {o : Override} (hs : s.current.WellFormed)
    (h : s.enter o = .ok inner) : inner.current.WellFormed := by
  obtain ⟨c, hc, rfl⟩ := map_eq_ok.mp h
  exact overridden_formed hs hc

namespace Work

theorem run_block_of_refused {s : Scope} {o : Override} {e : ScopeError}
    (h : s.enter o = .error e) (body : Work) :
    (block o body).run s = ⟨.refused e, s, [s.current]⟩ := by
  rw [run, h]

/-- A block that is entered, with a body that keeps the scope: what is current at its end is what
was current at its beginning. -/
theorem run_block_of_entered {s inner : Scope} {o : Override} (h : s.enter o = .ok inner)
    {body : Work} (hbody : (body.run inner).scope = inner) :
    (block o body).run s = ⟨(body.run inner).ending, s,
      s.current :: (body.run inner).seen ++ [s.current]⟩ := by
  rw [run, h]
  simp only [hbody, leave?_of_enter h, Option.getD_some]

/-- After work the scope is the one before. -/
theorem scope_run (w : Work) (s : Scope) : (w.run s).scope = s := by
  induction w generalizing s with
  | idle => rfl
  | fail message => rfl
  | look next ih => exact ih s.current s
  | seq first next ihf ihn =>
    rw [run]
    split
    · rw [Course.andThen, ihf, ihn]
    · exact ihf s
  | rescue tried other iht iho =>
    rw [run]
    split
    · exact iht s
    · rw [Course.andThen, iht, iho]
  | block o body ih =>
    cases h : s.enter o with
    | error e => rw [run_block_of_refused h]
    | ok inner => rw [run_block_of_entered h (ih inner)]

/-- In a well-formed configuration, all configurations are that become current. -/
theorem seen_formed (w : Work) {s : Scope} (hs : s.current.WellFormed) :
    ∀ c ∈ (w.run s).seen, c.WellFormed := by
  induction w generalizing s with
  | idle => simpa [run] using hs
  | fail message => simpa [run] using hs
  | look next ih => exact ih s.current hs
  | seq first next ihf ihn =>
    rw [run]
    split
    · rw [Course.andThen, scope_run]
      exact List.forall_mem_append.mpr ⟨ihf hs, ihn hs⟩
    · exact ihf hs
  | rescue tried other iht iho =>
    rw [run]
    split
    · exact iht hs
    · rw [Course.andThen, scope_run]
      exact List.forall_mem_append.mpr ⟨iht hs, iho hs⟩
  | block o body ih =>
    cases h : s.enter o with
    | error e => simpa [run_block_of_refused h] using hs
    | ok inner =>
      rw [run_block_of_entered h (body.scope_run inner)]
      have hbody := ih (enter_formed hs h)
      exact List.forall_mem_append.mpr
        ⟨List.forall_mem_cons.mpr ⟨hs, hbody⟩, List.forall_mem_singleton.mpr hs⟩

/-- Every piece of work, however it ends, leaves the scope as it was; a block whose override is
refused is refused before its body begins, and nothing else happens; and where the configuration
is well-formed at first, so is every one that is ever current. -/
theorem run_scoped (w : Work) (s : Scope) :
    (w.run s).scope = s
    ∧ (∀ o body e, s.enter o = .error e → (block o body).run s = ⟨.refused e, s, [s.current]⟩)
    ∧ (s.current.WellFormed → ∀ c ∈ (w.run s).seen, c.WellFormed) :=
  ⟨w.scope_run s, fun _ body _ he => run_block_of_refused he body, w.seen_formed⟩

/-- The standard configuration, on which a mapping is assigned as its database. -/
def faulty : ConfigTree :=
  .model .config
    [(Section.logging.name, .standardSection .logging),
      (Section.database.name, .leaf (.dict [(.text "pool_size", .text "many")])),
      (Section.app.name, .standardSection .app)]
    [Section.database.name]

/-- Work that fails in a block, in the place of work in a block with a refused override. -/
def troubled : Work :=
  rescue (block (.tree faulty) idle) (block .nothing (seq idle (fail "out of order")))

theorem run_scoped_troubled :
    ∃ e, (start .standard).enter (.tree faulty) = .error e
      ∧ (block (.tree faulty) idle).run (start .standard)
        = ⟨.refused e, start .standard, [.standard]⟩
      ∧ (troubled.run (start .standard)).scope = start .standard
      ∧ ConfigTree.standard.WellFormed
      ∧ ∀ c ∈ (troubled.run (start .standard)).seen, c.WellFormed := by
  obtain ⟨hscope, hrefused, hseen⟩ := run_scoped troubled (start .standard)
  have hformed := ConfigTree.standard_formed
  cases h : (start .standard).enter (.tree faulty) with
  | error e => exact ⟨e, rfl, hrefused _ _ e h, hscope, hformed, hseen hformed⟩
  | ok inner =>
    have hnot : ((start .standard).enter (.tree faulty)).toBool = false := by decide +kernel
    rw [h] at hnot
    cases hnot

end Work

end Registry.Scope
