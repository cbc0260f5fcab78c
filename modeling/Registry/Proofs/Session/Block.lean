import Mathlib.Data.List.SplitBy
import Registry.Proofs.Repository.Operation
import Registry.Proofs.Session.Drafts
import Registry.Service

/-!
# Blocks are all or nothing

Until it is committed, work on a database changes only the working copy of its session, also where
it fails (`Work.steps_uncommitted`). A block therefore either ends normally, and the database gains
all the rows that were added, or it ends with the first error in it and leaves the database as it
was (`Session.block_eq_ok_iff`, `Session.block_eq_error_iff`, `Service.runBlock_allOrNothing`).
-/

namespace Registry

/-! ## Progress -/

namespace Progress

variable {σ : Type} {p : Progress σ} {next : σ → Progress σ} {s s' : σ} {e : BlockError}

theorem going_or_failed (p : Progress σ) : (∃ s, p = going s) ∨ ∃ s e, p = failed s e := by
  obtain ⟨s, _ | e⟩ := p
  · exact .inl ⟨s, rfl⟩
  · exact .inr ⟨s, e, rfl⟩

theorem andThen_going (s : σ) (next : σ → Progress σ) : (going s).andThen next = next s := rfl

theorem andThen_failed (s : σ) (e : BlockError) (next : σ → Progress σ) :
    (failed s e).andThen next = failed s e := rfl

theorem andThen_eq_going_iff :
    p.andThen next = going s' ↔ ∃ s, p = going s ∧ next s = going s' := by
  rcases going_or_failed p with ⟨s, rfl⟩ | ⟨s, e, rfl⟩
  · rw [andThen_going]
    simp [going]
  · rw [andThen_failed]
    simp [going, failed]

theorem attempt_eq_going_iff {work : Except BlockError σ} :
    attempt s work = going s' ↔ work = .ok s' := by
  cases work with
  | ok a => simp [attempt, going]
  | error e => simp [attempt, going, failed]

/-- An error is that of the first part or, if this goes on, that of the rest. -/
theorem andThen_error_iff :
    (p.andThen next).error? = some e
      ↔ p.error? = some e ∨ ∃ s, p = going s ∧ (next s).error? = some e := by
  rcases going_or_failed p with ⟨s, rfl⟩ | ⟨s, e', rfl⟩
  · rw [andThen_going]
    simp [going]
  · rw [andThen_failed]
    simp [going, failed]

theorem andThen_assoc (p : Progress σ) (next last : σ → Progress σ) :
    (p.andThen next).andThen last = p.andThen fun s => (next s).andThen last := by
  rcases going_or_failed p with ⟨s, rfl⟩ | ⟨s, e, rfl⟩ <;> rfl

theorem attempt_preserves {P : σ → Prop} {work : Except BlockError σ} (hs : P s)
    (hwork : ∀ s', work = .ok s' → P s') : P (attempt s work).state := by
  cases work with
  | ok s' => exact hwork s' rfl
  | error e => exact hs

/-- What holds of the state so far and is kept by more work holds of the state afterwards. -/
theorem andThen_preserves {P : σ → Prop} (hp : P p.state) (hnext : ∀ s, P s → P (next s).state) :
    P (p.andThen next).state := by
  rcases going_or_failed p with ⟨s, rfl⟩ | ⟨s, e, rfl⟩
  · exact hnext s hp
  · exact hp

end Progress

/-! ## Sessions -/

namespace Session

/-- Nothing is committed but a given database, and no row waits for the commit. -/
structure Uncommitted (d : Database) (s : Session) : Prop where
  committed : s.committed = d
  waiting : s.waiting = []

variable {d : Database} {s s' : Session}

theorem insert_eq_ok_iff {row : Row} :
    s.insert row = .ok s'
      ↔ ∃ t, insertion s.working row = .ok t ∧ s' = { s with working := some t } := by
  unfold insert execute insertion
  cases s.working with
  | none => simp [Except.map]
  | some t =>
    cases bindError? (Column.all.map row) with
    | some e => simp [Except.map]
    | none =>
      cases h : t.insert row with
      | error f => simp [Except.map, mapError_error, h]
      | ok t' => simp [Except.map, mapError_ok, h, eq_comm]

theorem insertDraft_eq_ok_iff {r : Draft} :
    s.insertDraft r = .ok s' ↔ ∃ e, s.working.Gains [r] e ∧ s' = { s with working := e } := by
  unfold insertDraft
  cases h : s.working with
  | none =>
    simp only [Database.gains_none_iff]
    exact iff_of_false nofun fun ⟨_, ⟨hr, _⟩, _⟩ => List.cons_ne_nil r [] hr
  | some t =>
    simp only [bind_eq_ok, mapError_eq_ok, Draft.toRow_eq_ok_iff, insert_eq_ok_iff, insertion_eq_ok,
      h, Option.some.injEq, Database.gains_some_iff, List.forall₂_cons_left_iff,
      List.forall₂_nil_left_iff, Table.insert_eq_ok_iff]
    constructor
    · rintro ⟨row, hrow, _, ⟨_, rfl, -, hadmits, rfl⟩, rfl⟩
      exact ⟨_, ⟨_, ⟨_, _, ⟨row, hrow, rfl⟩, rfl, rfl⟩, rfl, hadmits⟩, rfl⟩
    · rintro ⟨_, ⟨_, ⟨_, _, ⟨row, hrow, rfl⟩, rfl, rfl⟩, rfl, hadmits⟩, rfl⟩
      exact ⟨row, hrow, _, ⟨t, rfl, Draft.bindError?_eq_none hrow, hadmits, rfl⟩, rfl⟩

/-- A session inserts drafts exactly if its working copy gains them. -/
theorem insertDrafts_eq_going_iff {drafts : List Draft} :
    s.insertDrafts drafts = .going s'
      ↔ ∃ e, s.working.Gains drafts e ∧ s' = { s with working := e } := by
  induction drafts generalizing s with
  | nil =>
    simp only [insertDrafts, Database.gains_nil_iff, exists_eq_left]
    exact ⟨fun h => (congrArg Progress.state h).symm, fun h => h ▸ rfl⟩
  | cons r rest ih =>
    rw [insertDrafts, Progress.andThen_eq_going_iff, ← List.singleton_append]
    simp only [Progress.attempt_eq_going_iff, insertDraft_eq_ok_iff, ih, Database.gains_append_iff]
    constructor
    · rintro ⟨_, ⟨e, hr, rfl⟩, e', hrest, rfl⟩
      exact ⟨e', ⟨e, hr, hrest⟩, rfl⟩
    · rintro ⟨e', ⟨e, hr, hrest⟩, rfl⟩
      exact ⟨_, ⟨e, hr, rfl⟩, e', hrest, rfl⟩

theorem eq_of_checkDrafts {drafts : List Draft} (h : s.checkDrafts drafts = .ok s') : s' = s := by
  obtain ⟨-, -, hs⟩ := map_eq_ok.mp h
  exact hs.symm

/-- The dates of drafts that can be inserted can be bound. -/
theorem checkDrafts_of_gains {drafts : List Draft} {e e' : Database} (h : e.Gains drafts e') :
    s.checkDrafts drafts = .ok s := by
  obtain ⟨rows, hrows, -⟩ := h
  have hchecked : forM drafts Draft.checkDates = .ok () := by
    induction hrows with
    | nil => rfl
    | cons hrow _ ih =>
      obtain ⟨cells, hcells, -⟩ := hrow
      rw [List.forM_cons, Draft.checkDates_eq_ok hcells]
      exact ih
  rw [checkDrafts, List.forM_eq_forM, hchecked]
  rfl

theorem insertBatches_eq_going_iff {bs : List (List Draft)} :
    s.insertBatches bs = .going s'
      ↔ ∃ e, s.working.Gains bs.flatten e ∧ s' = { s with working := e } := by
  induction bs generalizing s with
  | nil =>
    simp only [insertBatches, List.flatten_nil, Database.gains_nil_iff, exists_eq_left]
    exact ⟨fun h => (congrArg Progress.state h).symm, fun h => h ▸ rfl⟩
  | cons batch rest ih =>
    rw [insertBatches, Progress.andThen_eq_going_iff, List.flatten_cons]
    simp only [Progress.andThen_eq_going_iff, Progress.attempt_eq_going_iff,
      insertDrafts_eq_going_iff, ih, Database.gains_append_iff]
    constructor
    · rintro ⟨_, ⟨_, hcheck, e, hbatch, rfl⟩, e', hrest, rfl⟩
      obtain rfl := eq_of_checkDrafts hcheck
      exact ⟨e', ⟨e, hbatch, hrest⟩, rfl⟩
    · rintro ⟨e', ⟨e, hbatch, hrest⟩, rfl⟩
      exact ⟨_, ⟨s, checkDrafts_of_gains hbatch, e, hbatch, rfl⟩, e', hrest, rfl⟩

/-- What is inserted, until it fails or not, is in the working copy only. -/
theorem insertDrafts_uncommitted (h : s.Uncommitted d) (drafts : List Draft) :
    (s.insertDrafts drafts).state.Uncommitted d := by
  induction drafts generalizing s with
  | nil => exact h
  | cons r rest ih =>
    refine Progress.andThen_preserves (Progress.attempt_preserves h ?_) fun s hs => ih hs
    intro s' hs'
    obtain ⟨e, -, rfl⟩ := insertDraft_eq_ok_iff.mp hs'
    exact ⟨h.committed, h.waiting⟩

theorem insertBatches_uncommitted (h : s.Uncommitted d) (bs : List (List Draft)) :
    (s.insertBatches bs).state.Uncommitted d := by
  induction bs generalizing s with
  | nil => exact h
  | cons batch rest ih =>
    refine Progress.andThen_preserves (Progress.andThen_preserves (Progress.attempt_preserves h ?_)
      fun s hs => insertDrafts_uncommitted hs batch) fun s hs => ih hs
    intro s' hs'
    exact eq_of_checkDrafts hs' ▸ h

end Session

/-! ## Work -/

namespace Work

/-- The drafts that a block adds. -/
def added : List BlockStep → List Draft
  | [] => []
  | .add r :: rest => r :: added rest
  | .flush :: rest => added rest
  | .raise _ :: rest => added rest

/-- No step of a block gives up the work. -/
def NeverRaises (b : List BlockStep) : Prop := ∀ message, BlockStep.raise message ∉ b

theorem neverRaises_cons_iff {x : BlockStep} {rest : List BlockStep} :
    NeverRaises (x :: rest) ↔ (∀ message, x ≠ .raise message) ∧ NeverRaises rest := by
  unfold NeverRaises
  simp only [List.mem_cons, not_or, forall_and, ne_eq, eq_comm]

variable {d : Database} {w w' : Work} {b : List BlockStep} {e : BlockError}

theorem flush_eq_going_iff :
    w.flush = .going w' ↔ ∃ e, w.session.working.Gains w.waiting e
      ∧ w' = ⟨{ w.session with working := e }, []⟩ := by
  have hbatches : (batches w.waiting).flatten = w.waiting := List.flatten_splitBy _ _
  have hflush : w.flush = .going w'
      ↔ ∃ s, w.session.insertBatches (batches w.waiting) = .going s ∧ w' = ⟨s, []⟩ := by
    unfold flush
    rcases Progress.going_or_failed (w.session.insertBatches (batches w.waiting))
      with ⟨s, hs⟩ | ⟨s, e, hs⟩
    · simp [hs, Progress.going, eq_comm]
    · simp [hs, Progress.going, Progress.failed]
  rw [hflush]
  simp only [Session.insertBatches_eq_going_iff, hbatches]
  constructor
  · rintro ⟨_, ⟨e, he, rfl⟩, rfl⟩
    exact ⟨e, he, rfl⟩
  · rintro ⟨e, he, rfl⟩
    exact ⟨_, ⟨e, he, rfl⟩, rfl⟩

theorem flush_uncommitted (h : w.session.Uncommitted d) : w.flush.state.session.Uncommitted d :=
  Session.insertBatches_uncommitted h _

theorem step_uncommitted (h : w.session.Uncommitted d) (x : BlockStep) :
    (w.step x).state.session.Uncommitted d := by
  cases x with
  | add r => exact h
  | flush => exact flush_uncommitted h
  | raise message => exact h

/-- Whatever is done, nothing of it is committed. -/
theorem steps_uncommitted (h : w.session.Uncommitted d) (b : List BlockStep) :
    (w.steps b).state.session.Uncommitted d := by
  induction b generalizing w with
  | nil => exact h
  | cons x rest ih =>
    exact Progress.andThen_preserves (P := fun w : Work => w.session.Uncommitted d)
      (step_uncommitted h x) fun w hw => ih hw

theorem keep_eq_ok (h : w.session.Uncommitted d) :
    w.keep = .ok ⟨Session.start w.session.working, w.waiting⟩ := by
  unfold keep Session.commit Session.flush
  rw [h.waiting]
  rfl

theorem commit_eq_going_iff (h : w.session.Uncommitted d) :
    w.commit = .going w' ↔ ∃ e, w.session.working.Gains w.waiting e
      ∧ w' = ⟨Session.start e, []⟩ := by
  have hkeep (e : Database) :
      keep ⟨{ w.session with working := e }, []⟩ = .ok ⟨Session.start e, []⟩ :=
    keep_eq_ok (w := ⟨{ w.session with working := e }, []⟩) (d := d) ⟨h.committed, h.waiting⟩
  rw [commit, Progress.andThen_eq_going_iff]
  simp only [Progress.attempt_eq_going_iff, flush_eq_going_iff]
  constructor
  · rintro ⟨_, ⟨e, he, rfl⟩, hw⟩
    rw [hkeep] at hw
    exact ⟨e, he, (Except.ok.inj hw).symm⟩
  · rintro ⟨e, he, rfl⟩
    exact ⟨_, ⟨e, he, rfl⟩, hkeep e⟩

theorem body_cons (w : Work) (x : BlockStep) (rest : List BlockStep) :
    w.body (x :: rest) = (w.step x).andThen fun w => w.body rest :=
  Progress.andThen_assoc _ _ _

/-- Work ends normally exactly if nothing gives it up and the database gains all that is added. -/
theorem body_eq_going_iff (h : w.session.Uncommitted d) :
    w.body b = .going w' ↔ NeverRaises b ∧ ∃ e, w.session.working.Gains (w.waiting ++ added b) e
      ∧ w' = ⟨Session.start e, []⟩ := by
  induction b generalizing w with
  | nil =>
    have hbody : w.body [] = w.commit := rfl
    rw [hbody, commit_eq_going_iff h, added, List.append_nil]
    exact (and_iff_right nofun).symm
  | cons x rest ih =>
    rw [body_cons, neverRaises_cons_iff]
    cases x with
    | add r =>
      have hstep : ((w.step (.add r)).andThen fun w => w.body rest)
          = Work.body ⟨w.session, w.waiting ++ [r]⟩ rest := rfl
      rw [hstep, ih (w := ⟨w.session, w.waiting ++ [r]⟩) h, added, List.append_assoc,
        List.singleton_append]
      simp only [ne_eq, reduceCtorEq, not_false_eq_true, implies_true, true_and]
    | flush =>
      have hrest (e : Database) := ih (w := ⟨{ w.session with working := e }, []⟩)
        ⟨h.committed, h.waiting⟩
      rw [Progress.andThen_eq_going_iff]
      simp only [step, flush_eq_going_iff, added, Database.gains_append_iff, ne_eq, reduceCtorEq,
        not_false_eq_true, implies_true, true_and]
      constructor
      · rintro ⟨_, ⟨e, he, rfl⟩, hw⟩
        obtain ⟨hraises, e', he', rfl⟩ := (hrest e).mp hw
        exact ⟨hraises, e', ⟨e, he, he'⟩, rfl⟩
      · rintro ⟨hraises, e', ⟨e, he, he'⟩, rfl⟩
        exact ⟨_, ⟨e, he, rfl⟩, (hrest e).mpr ⟨hraises, e', he', rfl⟩⟩
    | raise message =>
      refine iff_of_false nofun ?_
      rintro ⟨⟨hne, -⟩, -⟩
      exact hne message rfl

/-- A commit that fails has not committed anything: the rows that waited could not be inserted. -/
theorem commit_uncommitted (h : w.session.Uncommitted d) (he : w.commit.error? = some e) :
    w.commit.state.session.Uncommitted d := by
  have hflush := flush_uncommitted h
  unfold commit at he ⊢
  rcases Progress.going_or_failed w.flush with ⟨v, hv⟩ | ⟨v, e', hv⟩
  · rw [hv] at hflush he
    rw [Progress.andThen_going, keep_eq_ok (w := v) hflush] at he
    cases he
  · rw [hv] at hflush ⊢
    exact hflush

/-- Work that fails has not been committed, not even in part. -/
theorem body_uncommitted (h : w.session.Uncommitted d) (he : (w.body b).error? = some e) :
    (w.body b).state.session.Uncommitted d := by
  have hsteps := steps_uncommitted h b
  unfold body at he ⊢
  rcases Progress.going_or_failed (w.steps b) with ⟨v, hv⟩ | ⟨v, e', hv⟩
  · rw [hv] at hsteps he ⊢
    exact commit_uncommitted hsteps he
  · rw [hv] at hsteps ⊢
    exact hsteps

/-! ## Errors -/

/-- An error is that of a step of a block before which nothing fails. -/
def StepFails (w : Work) (b : List BlockStep) (e : BlockError) : Prop :=
  ∃ before x after v, b = before ++ x :: after ∧ w.steps before = .going v
    ∧ (v.step x).error? = some e

/-- An error is the first in a block: that of a step, or that of the commit if no step fails. -/
def FailsFirst (w : Work) (b : List BlockStep) (e : BlockError) : Prop :=
  w.StepFails b e ∨ ∃ v, w.steps b = .going v ∧ v.commit.error? = some e

theorem stepFails_cons_iff {x : BlockStep} {rest : List BlockStep} :
    w.StepFails (x :: rest) e
      ↔ (w.step x).error? = some e ∨ ∃ v, w.step x = .going v ∧ v.StepFails rest e := by
  constructor
  · rintro ⟨before, y, after, v, hb, hv, he⟩
    cases before with
    | nil =>
      obtain ⟨rfl, rfl⟩ := List.cons.inj hb
      cases hv
      exact .inl he
    | cons z before =>
      obtain ⟨rfl, rfl⟩ := List.cons.inj hb
      obtain ⟨u, hu, hv⟩ := Progress.andThen_eq_going_iff.mp hv
      exact .inr ⟨u, hu, before, y, after, v, rfl, hv, he⟩
  · rintro (he | ⟨u, hu, before, y, after, v, rfl, hv, he⟩)
    · exact ⟨[], x, rest, w, rfl, rfl, he⟩
    · exact ⟨x :: before, y, after, v, rfl, Progress.andThen_eq_going_iff.mpr ⟨u, hu, hv⟩, he⟩

theorem steps_error_iff : (w.steps b).error? = some e ↔ w.StepFails b e := by
  induction b generalizing w with
  | nil =>
    refine iff_of_false nofun ?_
    rintro ⟨before, x, after, v, hb, -⟩
    cases before <;> cases hb
  | cons x rest ih =>
    rw [steps, Progress.andThen_error_iff, stepFails_cons_iff]
    simp only [ih]

theorem body_error_iff : (w.body b).error? = some e ↔ w.FailsFirst b e := by
  rw [body, Progress.andThen_error_iff, steps_error_iff, FailsFirst]

end Work

/-! ## Blocks -/

namespace Session

variable {d d' : Database} {b : List BlockStep} {e : BlockError}

theorem start_uncommitted (d : Database) : (Work.start d).session.Uncommitted d := ⟨rfl, rfl⟩

/-- A block ends normally exactly if it does not give up and the database gains all that it adds. -/
theorem block_eq_ok_iff :
    Session.block d b = (.ok (), d') ↔ Work.NeverRaises b ∧ d.Gains (Work.added b) d' := by
  have hblock : Session.block d b = (.ok (), d')
      ↔ ∃ v, (Work.start d).body b = .going v ∧ v.session.committed = d' := by
    unfold Session.block
    rcases Progress.going_or_failed ((Work.start d).body b) with ⟨v, hv⟩ | ⟨v, e, hv⟩
    · simp [hv, Progress.going]
    · simp [hv, Progress.going, Progress.failed]
  rw [hblock]
  simp only [Work.body_eq_going_iff (start_uncommitted d)]
  constructor
  · rintro ⟨_, ⟨hraises, e, he, rfl⟩, rfl⟩
    exact ⟨hraises, he⟩
  · rintro ⟨hraises, he⟩
    exact ⟨_, ⟨hraises, d', he, rfl⟩, rfl⟩

/-- A block that fails does so with the first error in it, and the database is as it was. -/
theorem block_eq_error_iff :
    Session.block d b = (.error e, d') ↔ (Work.start d).FailsFirst b e ∧ d' = d := by
  have hblock : Session.block d b = (.error e, d') ↔ ((Work.start d).body b).error? = some e
      ∧ ((Work.start d).body b).state.session.committed = d' := by
    unfold Session.block
    rcases Progress.going_or_failed ((Work.start d).body b) with ⟨v, hv⟩ | ⟨v, e, hv⟩
    · simp [hv, Progress.going]
    · simp [hv, Progress.failed, Work.rollback, Session.rollback, Session.start]
  rw [hblock, ← Work.body_error_iff]
  refine and_congr_right fun he => ?_
  rw [(Work.body_uncommitted (start_uncommitted d) he).committed, eq_comm]

/-- What was flushed does not stay where a later row has the same id. -/
example :
    let r : Draft := fun c => if c.type = .dateTime then .date ⟨2024, 5, 1, by decide⟩ else .text []
    (Session.block (some []) [.add r, .flush, .add r]).2.map List.length = some 0
      ∧ (Session.block (some []) [.add r, .flush]).2.map List.length = some 1 := by
  decide

end Session

/-! ## Services -/

namespace Service

variable {s : Service} {b : List BlockStep}

/-- A block that needs no connection adds nothing that is not given up. -/
theorem added_of_not_needsConnection {waiting : Bool} (h : needsConnection b waiting = false)
    (hraises : Work.NeverRaises b) : Work.added b = [] ∧ waiting = false := by
  induction b generalizing waiting with
  | nil => exact ⟨rfl, h⟩
  | cons x rest ih =>
    obtain ⟨hne, hrest⟩ := Work.neverRaises_cons_iff.mp hraises
    cases x with
    | add r => cases (ih h hrest).2
    | flush =>
      rw [needsConnection, Bool.or_eq_false_iff] at h
      exact ⟨(ih h.2 hrest).1, h.1⟩
    | raise message => exact absurd rfl (hne message)

/-- The connection that a block needs, if it needs one, can be had. -/
def Serves (s : Service) (b : List BlockStep) : Prop :=
  needsConnection b false = true → s.reachable = true

/-- A block fails with an error: with the first in it, or because a connection that it needs cannot
be had. -/
def FailsWith (s : Service) (b : List BlockStep) (e : BlockError) : Prop :=
  s.Serves b ∧ (Work.start s.database).FailsFirst b e
    ∨ ¬s.Serves b ∧ e = .statement (.database .operational)

theorem runBlock_of_serves (h : s.Serves b) :
    (s.runBlock b).1 = (Session.block s.database b).1
      ∧ (s.runBlock b).2.database = (Session.block s.database b).2 := by
  unfold runBlock
  by_cases hneeds : needsConnection b false = true
  · rw [hneeds, if_neg (by decide), if_pos (h hneeds)]
    exact ⟨rfl, rfl⟩
  · rw [Bool.not_eq_true] at hneeds
    rw [hneeds, if_pos (by decide)]
    refine ⟨rfl, ?_⟩
    -- without a connection nothing is inserted, whether the block fails or not
    rcases hblock : Session.block s.database b with ⟨e | _, d⟩
    · exact (Session.block_eq_error_iff.mp hblock).2.symm
    · obtain ⟨hraises, hgains⟩ := Session.block_eq_ok_iff.mp hblock
      rw [(added_of_not_needsConnection hneeds hraises).1, Database.gains_nil_iff] at hgains
      exact hgains.symm

theorem runBlock_of_not_serves (h : ¬s.Serves b) :
    s.runBlock b = (.error (.statement (.database .operational)), s) := by
  obtain ⟨hneeds, hreachable⟩ := Classical.not_imp.mp h
  unfold runBlock
  rw [hneeds, if_neg (by decide), if_neg hreachable]

theorem runBlock_cases (s : Service) (b : List BlockStep) :
    (s.runBlock b).1 = .ok () ∧ s.Serves b ∧ Work.NeverRaises b
        ∧ s.database.Gains (Work.added b) (s.runBlock b).2.database
      ∨ ∃ e, (s.runBlock b).1 = .error e ∧ s.FailsWith b e
        ∧ (s.runBlock b).2.database = s.database := by
  by_cases h : s.Serves b
  · obtain ⟨hresult, hdatabase⟩ := runBlock_of_serves h
    rw [hresult, hdatabase]
    rcases hblock : Session.block s.database b with ⟨e | _, d⟩
    · obtain ⟨hfails, rfl⟩ := Session.block_eq_error_iff.mp hblock
      exact .inr ⟨e, rfl, .inl ⟨h, hfails⟩, rfl⟩
    · obtain ⟨hraises, hgains⟩ := Session.block_eq_ok_iff.mp hblock
      exact .inl ⟨rfl, h, hraises, hgains⟩
  · rw [runBlock_of_not_serves h]
    exact .inr ⟨_, rfl, .inr ⟨h, rfl⟩, rfl⟩

/-- A block that can be served, never gives up and adds what the database can gain ends normally. -/
theorem runBlock_eq_ok {d : Database} (h : s.Serves b) (hraises : Work.NeverRaises b)
    (hgains : s.database.Gains (Work.added b) d) : (s.runBlock b).1 = .ok () := by
  rw [(runBlock_of_serves h).1, Session.block_eq_ok_iff.mpr ⟨hraises, hgains⟩]

/-- A block of work either ends normally, and the database has the rows of all drafts that it added
after the old ones; or it ends with the first error, and the database is the old one. It ends
normally exactly if it never gives up and the database can gain all. -/
theorem runBlock_allOrNothing (s : Service) (b : List BlockStep) :
    ((s.runBlock b).1 = .ok () ∧ s.database.Gains (Work.added b) (s.runBlock b).2.database
      ∨ ∃ e, (s.runBlock b).1 = .error e ∧ s.FailsWith b e
        ∧ (s.runBlock b).2.database = s.database)
    ∧ ((s.runBlock b).1 = .ok () ↔ s.Serves b ∧ Work.NeverRaises b
        ∧ ∃ d, s.database.Gains (Work.added b) d) := by
  rcases runBlock_cases s b with ⟨hok, hserves, hraises, hgains⟩ | ⟨e, he, hfails, hdatabase⟩
  · exact ⟨.inl ⟨hok, hgains⟩, iff_of_true hok ⟨hserves, hraises, _, hgains⟩⟩
  · refine ⟨.inr ⟨e, he, hfails, hdatabase⟩, iff_of_false (he ▸ nofun) ?_⟩
    rintro ⟨hserves, hraises, d, hgains⟩
    cases he.symm.trans (runBlock_eq_ok hserves hraises hgains)

/-- Blocks of work keep the rules of the table. -/
theorem runBlock_lawful (h : s.database.Lawful) (b : List BlockStep) :
    (s.runBlock b).2.database.Lawful := by
  rcases runBlock_cases s b with ⟨-, -, -, hgains⟩ | ⟨e, -, -, hdatabase⟩
  · exact h.gains hgains
  · rw [hdatabase]
    exact h

end Service

end Registry
