import Registry.Proofs.Repository.Request

/-!
# All or nothing

A request that fails, in whatever way and with whatever table, leaves the database as it was, and so
does a request that only reads. What a run comes to is therefore decided by the calls that take
effect: without the others it gives the same answers and ends with the same database (`run_atomic`).
-/

namespace Registry

namespace Repository

/-- The answer is a failure, classified or not. -/
def Answer.isFailed : Answer → Bool
  | failed _ => true
  | _ => false

/-- The request asks for what is stored and for no change. -/
def Request.isRead : Request → Bool
  | get _ _ => true
  | getAll => true
  | _ => false

/-- The request is one for a change and has been answered without a failure. -/
def Request.takesEffect (q : Request) (a : Answer) : Bool := !q.isRead && !a.isFailed

theorem Answer.isFailed_iff {a : Answer} : a.isFailed = true ↔ ∃ e, a = .failed e := by
  cases a <;> simp [Answer.isFailed]

/-- A read gives no database back but the one that it was given. -/
theorem step_read (r : Repository) (d : Database) (fault : Option FaultPoint) {q : Request}
    (h : q.isRead = true) : (r.step d fault q).2 = d := by
  cases q with
  | get elapsed id => rfl
  | getAll => rfl
  | _ => cases h

theorem step_of_not_takesEffect {r : Repository} {d : Database} {fault : Option FaultPoint}
    {q : Request} (h : q.takesEffect (r.step d fault q).1 = false) : (r.step d fault q).2 = d := by
  rw [Request.takesEffect, Bool.and_eq_false_iff, Bool.not_eq_false', Bool.not_eq_false'] at h
  rcases h with hread | hfailed
  · exact step_read r d fault hread
  · obtain ⟨e, he⟩ := Answer.isFailed_iff.mp hfailed
    exact step_failed he

/-- The calls of a run that take effect, with their answers. -/
def effective (r : Repository) (d : Database) (calls : List Call) : List (Call × Answer) :=
  (calls.zip (r.run d calls).1).filter fun x => x.1.2.takesEffect x.2

theorem effective_cons (r : Repository) (d : Database) (fault : Option FaultPoint) (q : Request)
    (rest : List Call) :
    r.effective d ((fault, q) :: rest)
      = if q.takesEffect (r.step d fault q).1
        then ((fault, q), (r.step d fault q).1) :: r.effective (r.step d fault q).2 rest
        else r.effective (r.step d fault q).2 rest := by
  unfold effective
  rw [run_cons, List.zip_cons_cons, List.filter_cons]

/-- The calls that take effect, made without the others, are answered as before and come to the same
database. -/
theorem run_effective (r : Repository) (d : Database) (calls : List Call) :
    r.run d ((r.effective d calls).map Prod.fst)
      = ((r.effective d calls).map Prod.snd, (r.run d calls).2) := by
  induction calls generalizing d with
  | nil => rfl
  | cons call rest ih =>
    obtain ⟨fault, q⟩ := call
    have ih := ih (r.step d fault q).2
    rw [effective_cons, run_cons]
    cases h : q.takesEffect (r.step d fault q).1 with
    | true =>
      rw [if_pos rfl, List.map_cons, List.map_cons, run_cons, ih]
    | false =>
      -- such a call leaves the database alone, so the rest starts where the call did
      rw [step_of_not_takesEffect h] at ih ⊢
      simpa using ih

/-- Whatever a database holds, a request leaves it as it was unless it asks for a change and does not
fail; and a run comes to the same database without the requests that do not take effect. -/
theorem run_atomic (r : Repository) (d : Database) :
    (∀ fault q, (r.step d fault q).2 = d
        ∨ q.isRead = false ∧ ∀ e, (r.step d fault q).1 ≠ .failed e)
      ∧ ∀ calls, r.run d ((r.effective d calls).map Prod.fst)
        = ((r.effective d calls).map Prod.snd, (r.run d calls).2) := by
  refine ⟨fun fault q => ?_, run_effective r d⟩
  cases h : q.takesEffect (r.step d fault q).1 with
  | false => exact .inl (step_of_not_takesEffect h)
  | true =>
    rw [Request.takesEffect, Bool.and_eq_true, Bool.not_eq_true', Bool.not_eq_true'] at h
    refine .inr ⟨h.1, fun e he => ?_⟩
    have := h.2
    rw [he] at this
    cases this

end Repository

end Registry
