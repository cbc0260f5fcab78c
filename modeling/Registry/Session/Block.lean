import Registry.Session.Binding

/-!
# Blocks of work

A block of work on a database runs in a session of its own: rows are added, the session is flushed,
and the work can be given up with a message. Work that fails keeps what it had done until then, also
the rows that a flush inserted before the one that failed. A block that ends normally is committed;
every other one is rolled back.

The values of rows are bound when they are flushed. Rows that follow one another and have an id, or
have none, are one batch: the dates of all are looked at before the first is inserted.
-/

namespace Registry

/-- The values of a row that is to be inserted. -/
abbrev Draft := Column → Value

inductive BlockStep
  | add (r : Draft)
  | flush
  | raise (message : Text)

/-- Why a block leaves the database as it was. -/
inductive BlockError
  | raised (message : Text)
  | statement (e : StatementError)
  | binding (e : BindError)

namespace Draft

def hasId (r : Draft) : Bool := r .identityId != .null

/-- The cell of a column, bound for it. -/
def bind (r : Draft) (c : Column) : Except BindError Cell := Cell.bindAs c.type (r c)

def checkDates (r : Draft) : Except BindError Unit := do
  let _ ← Cell.bindDate (r .dob)
  let _ ← Cell.bindDate (r .createdAt)

/-- The row with all values bound in the order of the columns. -/
def toRow (r : Draft) : Except BindError Row :=
  (Column.all.mapM (bind r)).map fun _ => fun c => ((bind r c).toOption).getD .null

end Draft

/-- How far work has come, and the error that ended it, if one did. -/
structure Progress (σ : Type) where
  state : σ
  error? : Option BlockError

namespace Progress

/-- Work that goes on. -/
def going (s : σ) : Progress σ := ⟨s, none⟩

/-- Work that an error ended. -/
def failed (s : σ) (e : BlockError) : Progress σ := ⟨s, some e⟩

/-- More work, unless an error has ended it. -/
def andThen (p : Progress σ) (next : σ → Progress σ) : Progress σ :=
  match p.error? with
  | none => next p.state
  | some _ => p

/-- One piece of work, which changes nothing if it fails. -/
def attempt (s : σ) (work : Except BlockError σ) : Progress σ :=
  match work with
  | .ok s => going s
  | .error e => failed s e

end Progress

namespace Session

def insertDraft (s : Session) (r : Draft) : Except BlockError Session :=
  match s.working with
  | none => .error (.statement (.database .operational))
  | some _ => do
    let row ← (Draft.toRow r).mapError .binding
    (s.insert row).mapError .statement

/-- Inserts the rows of drafts one after the other, up to the first that cannot be. -/
def insertDrafts (s : Session) : List Draft → Progress Session
  | [] => .going s
  | r :: rest => (Progress.attempt s (s.insertDraft r)).andThen fun s => s.insertDrafts rest

/-- Looks at the dates of drafts. -/
def checkDrafts (s : Session) (drafts : List Draft) : Except BlockError Session :=
  ((drafts.forM Draft.checkDates).mapError .binding).map fun _ => s

/-- Inserts batches of drafts one after the other, up to the first draft that cannot be. -/
def insertBatches (s : Session) : List (List Draft) → Progress Session
  | [] => .going s
  | batch :: rest =>
    ((Progress.attempt s (s.checkDrafts batch)).andThen fun s => s.insertDrafts batch).andThen
      fun s => s.insertBatches rest

end Session

/-- A session on a database with drafts that wait. -/
structure Work where
  session : Session
  waiting : List Draft

namespace Work

/-- Work on a database that has not begun. -/
def start (d : Database) : Work := ⟨Session.start d, []⟩

/-- Drafts in batches. -/
def batches (drafts : List Draft) : List (List Draft) :=
  drafts.splitBy fun a b => Draft.hasId a == Draft.hasId b

/-- Inserts the rows that wait. -/
def flush (w : Work) : Progress Work :=
  let p := w.session.insertBatches (batches w.waiting)
  ⟨⟨p.state, if p.error?.isNone then [] else w.waiting⟩, p.error?⟩

def step (w : Work) : BlockStep → Progress Work
  | .add r => .going { w with waiting := w.waiting ++ [r] }
  | .flush => w.flush
  | .raise message => .failed w (.raised message)

/-- The steps of a block one after the other, up to the first that fails. -/
def steps (w : Work) : List BlockStep → Progress Work
  | [] => .going w
  | b :: rest => (w.step b).andThen fun w => w.steps rest

/-- Makes what has been inserted the state of the database. -/
def keep (w : Work) : Except BlockError Work :=
  (w.session.commit.mapError .statement).map fun s => { w with session := s }

/-- Inserts the rows that wait, and keeps all. -/
def commit (w : Work) : Progress Work := w.flush.andThen fun w => .attempt w w.keep

/-- The steps of a block and the commit. -/
def body (w : Work) (b : List BlockStep) : Progress Work := (w.steps b).andThen commit

/-- The work without what has not been committed. -/
def rollback (w : Work) : Work := ⟨w.session.rollback, []⟩

end Work

/-- Runs a block on a database. Work that fails is rolled back, and the database has afterwards what
is committed. -/
def Session.block (d : Database) (b : List BlockStep) : Except BlockError Unit × Database :=
  let p := (Work.start d).body b
  match p.error? with
  | none => (.ok (), p.state.session.committed)
  | some e => (.error e, p.state.rollback.session.committed)

end Registry
