import Registry.Failure
import Registry.Identity.Update
import Registry.Table.Numeral

/-!
# The identity table

A row has a cell for every column, a table is a list of rows in the order of their insertion, and a
database holds the table or does not. A cell that is written into a column is converted to the kind
that the column prefers; a column of texts keeps numbers as texts, a column of dates keeps texts
that are numbers as numbers.

An insertion or an assignment that breaks a rule of the table leaves it as it is: ids are distinct,
and all columns but the date of birth are filled.
-/

namespace Registry

inductive Cell
  | null
  | int (n : Int)
  | real (x : Binary64)
  | text (t : Text)
  | blob (b : Octets)
deriving DecidableEq

abbrev Row := Column → Cell

/-- The rows of a table, the first inserted first. -/
abbrev Table := List Row

namespace Cell

/-! ## Conversion -/

/-- The least number that is too large for an integer of the table. -/
def integerBound : Nat := 0x8000000000000000

/-- A number as a cell, which is an integer if it has no fraction. -/
def ofReal (x : Binary64) : Cell :=
  match x.toInt? with
  | some n => if n.natAbs < integerBound then int n else real x
  | none => real x

/-- The cell of the number that a text is. -/
def ofNumeral? (t : Text) : Option Cell :=
  (StoredNumeral.ofText? t).map fun x =>
    match x.int? with
    | some n =>
      if -(integerBound : Int) ≤ n ∧ n < integerBound then int n else ofReal x.value
    | none => ofReal x.value

/-- The cell that a column of a type makes of a cell. -/
def convert (type : ColumnType) (cell : Cell) : Cell :=
  match type, cell with
  | _, real (.nan _) => null
  | .dateTime, text t => (ofNumeral? t).getD (text t)
  | .dateTime, real x => ofReal x
  | .dateTime, cell => cell
  | _, int n => text (Text.ofInt n)
  | _, real x => text (StoredNumeral.text x)
  | _, cell => cell

/-- The cell that a value is bound as; other kinds of values have none. -/
def ofValue? : Value → Option Cell
  | .null => some null
  | .bool b => some (int (if b then 1 else 0))
  | .int n => some (int n)
  | .float x => some (real x)
  | .text t => some (text t)
  | .bytes b => some (blob b)
  | .dateTime d => some (text (storedText d.date d.time))
  | _ => none

def toValue : Cell → Value
  | null => .null
  | int n => .int n
  | real x => .float x
  | text t => .text t
  | blob b => .bytes b

/-! ## Order -/

/-- A rational number as numerator and denominator exponent: the value of a number in units. -/
def units? : Cell → Option Int
  | int n => some (n * Magnitude.unitsPerOne)
  | real (.finite negative m) => some (if negative then -(m.units : Int) else m.units)
  | real (.infinite negative) =>
    let n : Int := Nat.pow 2 2200
    some (if negative then -n else n)
  | _ => none

/-- The place of a kind of cell in the order: nothing, numbers, texts, octets. -/
def rank : Cell → Nat
  | null => 0
  | int _ => 1
  | real _ => 1
  | text _ => 2
  | blob _ => 3

/-- The order of octets, a proper beginning first. -/
def octetsLe : Octets → Octets → Bool
  | [], _ => true
  | _ :: _, [] => false
  | a :: s, b :: t => if a < b then true else if b < a then false else octetsLe s t

/-- The order of cells: by kind, then by number, code points or octets. -/
def le (a b : Cell) : Bool :=
  match a, b with
  | text s, text t => Text.le s t
  | blob s, blob t => octetsLe s t
  | a, b =>
    if a.rank = b.rank then
      match a.units?, b.units? with
      | some x, some y => decide (x ≤ y)
      | _, _ => true
    else decide (a.rank < b.rank)

end Cell

namespace Row

/-- The columns that have to be filled are. -/
def isFilled (r : Row) : Bool := Column.all.all fun c => c.isNullable || r c != .null

/-- The row with every cell converted for its column. -/
def converted (r : Row) : Row := fun c => (r c).convert c.type

/-- The row with another cell in a column, converted for it. -/
def assign (r : Row) (c : Column) (cell : Cell) : Row :=
  fun d => if d = c then cell.convert c.type else r d

end Row

namespace Table

/-- The rows of an id. -/
def matching (t : Table) (id : Cell) : Table := t.filter fun r => r .identityId == id

def hasId (t : Table) (id : Cell) : Bool := t.any fun r => r .identityId == id

def idsDistinct : Table → Bool
  | [] => true
  | r :: rest => !hasId rest (r .identityId) && idsDistinct rest

/-- Inserts a row at the end, its cells converted for their columns. -/
def insert (t : Table) (r : Row) : Except DatabaseFault Table :=
  let r := Row.converted r
  if r.isFilled && !t.hasId (r .identityId) then .ok (t ++ [r]) else .error .integrity

/-- The rows with cells assigned to the columns of those of an id, and how many these are. -/
def assign (t : Table) (id : Cell) (cells : List (Column × Cell)) :
    Except DatabaseFault (Table × Nat) :=
  let change (r : Row) : Row := cells.foldl (fun r (c, cell) => Row.assign r c cell) r
  let changed : Table := t.map fun r => if r .identityId == id then change r else r
  let touchesId := cells.any fun (c, _) => c == .identityId
  if (t.matching id).all (fun r => Row.isFilled (change r))
      && (!touchesId || changed.idsDistinct) then
    .ok (changed, (t.matching id).length)
  else .error .integrity

/-- The rows without those of an id, and how many these are. -/
def erase (t : Table) (id : Cell) : Table × Nat :=
  (t.filter fun r => r .identityId != id, (t.matching id).length)

/-- The rows in the order of a column, rows with equal cells in the order of the table. -/
def sortedBy (t : Table) (c : Column) : Table := t.mergeSort fun r s => Cell.le (r c) (s c)

/-- The rows with the latest stored time of creation first; of equal ones the last inserted first.
-/
def latestFirst (t : Table) : Table :=
  t.reverse.mergeSort fun r s => Cell.le (s .createdAt) (r .createdAt)

end Table

/-- The table of a database, if it has been created. -/
abbrev Database := Option Table

namespace Database

/-- The table, which has to be there. -/
def table (d : Database) : Except DatabaseFault Table :=
  match d with
  | some t => .ok t
  | none => .error .operational

/-- The database with a table, a new one if there is none. -/
def create (d : Database) : Database := some (d.getD [])

end Database

end Registry
