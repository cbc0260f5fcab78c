import Registry.Session

/-!
# Binding values

A value is bound to a statement as a cell. Columns of dates take dates only; every other column
takes whatever has a cell: numbers and texts as they are, dates as texts with their offset.
-/

namespace Registry

/-- Why a value cannot be bound to a statement. -/
inductive BindError
  | noDate
  | unsupported
  | tooLarge
  | unencodable (e : EncodeError)
deriving DecidableEq

namespace BindError

/-- The wording of an error, if it has one of its own. -/
def message? : BindError → Option Text
  | tooLarge => some "Python int too large to convert to SQLite INTEGER"
  | unencodable e => some e.message
  | _ => none

end BindError

namespace Cell

/-- The cell of an integer of 64 bits. -/
def bindInt (n : Int) : Except BindError Cell :=
  if -0x8000000000000000 ≤ n ∧ n < 0x8000000000000000 then .ok (int n) else .error .tooLarge

/-- The cell that a value is bound as. -/
def bind : Value → Except BindError Cell
  | .null => .ok null
  | .bool b => .ok (int (if b then 1 else 0))
  | .int n => bindInt n
  | .float x => .ok (real x)
  | .text t =>
    match EncodeError.of? t with
    | some e => .error (.unencodable e)
    | none => .ok (text t)
  | .bytes b => .ok (blob b)
  | .dateTime d => .ok (text d.spacedText)
  | .date d => .ok (text d.text)
  | _ => .error .unsupported

/-- The cell that a value is bound as in a column of dates. -/
def bindDate : Value → Except BindError Cell
  | .null => .ok null
  | .dateTime d => .ok (text (storedText d.date d.time))
  | .date d => .ok (text (storedText d TimeOfDay.midnight))
  | _ => .error .noDate

/-- The cell that a value is bound as in a column. -/
def bindAs (type : ColumnType) (v : Value) : Except BindError Cell :=
  if type = .dateTime then bindDate v else bind v

end Cell

end Registry
