import Registry.Table

/-!
# Sessions

A session works on a copy of the database. Rows that are added wait until they are flushed into the
copy; a commit flushes and keeps the copy, and everything else that ends a session leaves the
database as it was.

Texts with surrogates cannot be bound to a statement. A missing table is found before that.
-/

namespace Registry

/-- A point at which a database can be made to fail. -/
inductive FaultPoint
  | begin
  | query
  | commit
  | statement
  | rowCount
  | iteration
deriving DecidableEq

inductive StatementError
  | database (f : DatabaseFault)
  | unencodable (e : EncodeError)

/-- The cause that an error of a statement is. -/
def StatementError.cause : StatementError → Cause
  | database f => .database f
  | unencodable e => .unencodable e

namespace Cell

/-- The surrogates that keep a cell from being bound. -/
def encodeError? : Cell → Option EncodeError
  | text t => EncodeError.of? t
  | _ => none

end Cell

/-- The first of cells that cannot be bound. -/
def bindError? (cells : List Cell) : Option EncodeError := cells.findSome? Cell.encodeError?

/-- Unfinished work on a database: its committed state, the state with the executed statements, and
the rows that wait. -/
structure Session where
  committed : Database
  working : Database
  waiting : List Row

namespace Session

def start (d : Database) : Session := ⟨d, d, []⟩

/-- The session without its unfinished work. -/
def rollback (s : Session) : Session := start s.committed

/-- The session with one more row that waits. -/
def add (s : Session) (r : Row) : Session := { s with waiting := s.waiting ++ [r] }

/-- Executes a statement on the table with given cells bound to it. -/
def execute (s : Session) (cells : List Cell) (f : Table → Except DatabaseFault (Table × α)) :
    Except StatementError (Session × α) :=
  match s.working with
  | none => .error (.database .operational)
  | some t =>
    match bindError? cells with
    | some e => .error (.unencodable e)
    | none =>
      match f t with
      | .ok (t, a) => .ok ({ s with working := some t }, a)
      | .error e => .error (.database e)

def insert (s : Session) (r : Row) : Except StatementError Session :=
  (s.execute (Column.all.map r) fun t => (t.insert r).map fun t => (t, ())).map (·.1)

/-- Inserts rows one after the other. -/
def insertAll (s : Session) : List Row → Except StatementError Session
  | [] => .ok s
  | r :: rest =>
    match s.insert r with
    | .ok s => s.insertAll rest
    | .error e => .error e

/-- Inserts the rows that wait. -/
def flush (s : Session) : Except StatementError Session :=
  (s.insertAll s.waiting).map fun s => { s with waiting := [] }

/-- Flushes, and makes the executed statements the state of the database. -/
def commit (s : Session) : Except StatementError Session :=
  s.flush.map fun s => start s.working

end Session

end Registry
