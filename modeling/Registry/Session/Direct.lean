import Registry.Session.Binding

/-!
# Statements given directly

Rows can be written without the repository: a whole row, or one column of the rows of an id. The
table and the columns have to be there before values are bound, in the order in which they are
given. A statement that fails leaves the database as it was.
-/

namespace Registry

inductive DirectError
  | database (f : DatabaseFault)
  | binding (e : BindError)
deriving DecidableEq

namespace Direct

/-- A row of cells under the names of columns, all others being those of a standard row. -/
def rowOf (standard : Row) (cells : List (Column × Cell)) : Row :=
  fun c => ((cells.reverse.find? fun (d, _) => d = c).map (·.2)).getD (standard c)

def columns (names : List Text) : Except DirectError (List Column) :=
  match names.mapM Column.ofName? with
  | some cs => .ok cs
  | none => .error (.database .operational)

def table (d : Database) : Except DirectError Table := d.table.mapError .database

def bindAll (values : List Value) : Except DirectError (List Cell) :=
  (values.mapM Cell.bind).mapError .binding

/-- Inserts a row with values under the names of columns. -/
def insert (d : Database) (standard : Row) (values : List (Text × Value)) :
    Except DirectError Database := do
  let t ← table d
  let columns ← columns (values.map (·.1))
  let cells ← bindAll (values.map (·.2))
  return some (← (t.insert (rowOf standard (columns.zip cells))).mapError .database)

/-- Puts a value into a column of the rows of an id, and tells how many these are. -/
def assign (d : Database) (id : Value) (column : Text) (v : Value) :
    Except DirectError (Database × Nat) := do
  let t ← table d
  let columns ← columns [column]
  let cell ← bindAll [v]
  let ids ← bindAll [id]
  let id := ((ids.head?).getD .null).convert Column.identityId.type
  let (t, n) ← (t.assign id (columns.zip cell)).mapError .database
  return (some t, n)

end Direct

end Registry
