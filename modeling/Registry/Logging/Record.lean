import Registry.Logging.Level
import Registry.Value.Shown

/-!
# Records

What is kept of an event. On a console and in a plain file a record is a line: the level and the
first line of the message, without marks for colours. In a full file it is an object with all its
parts, and what is read back of a part is what its notation keeps (`Value.recorded?`). No record
with a surrogate can be put into a file.
-/

namespace Registry

/-! ## Values in records -/

namespace Value

/-- The text of a value as a name in an object, if it can be one. -/
def nameText? : Value → Option Text
  | text t => some t
  | int n => some (Text.ofInt n)
  | bool b => some (Text.ofString (if b then "true" else "false"))
  | null => some "null"
  | float (.nan _) => some "NaN"
  | float (.infinite negative) =>
    some (Text.ofString (if negative then "-Infinity" else "Infinity"))
  | float x => some x.text
  | _ => none

mutual

/-- What is read of a value that was put into a record: what the notation of records has no form for
is a text. Nothing is read of a mapping with keys that are no names, nor of a container that holds
itself. -/
def recorded? : Value → Option Value
  | list vs => (recordedList? vs).map list
  | tuple vs => (recordedList? vs).map list
  | dict entries => (recordedEntries? entries).map dictOf
  | enclosing _ => none
  | null => some null
  | bool b => some (bool b)
  | int n => some (int n)
  | float x => some (float x)
  | text t => some (text t)
  | v => some (text v.plainText)

/-- What is read of values that were put into a record. -/
def recordedList? : List Value → Option (List Value)
  | [] => some []
  | v :: vs =>
    match recorded? v, recordedList? vs with
    | some v, some vs => some (v :: vs)
    | _, _ => none

/-- What is read of entries that were put into a record. -/
def recordedEntries? : List (Value × Value) → Option (List (Value × Value))
  | [] => some []
  | (k, v) :: es =>
    match nameText? k, recorded? v, recordedEntries? es with
    | some k, some v, some es => some ((text k, v) :: es)
    | _, _, _ => none

end

mutual

/-- A text in a value has a surrogate. -/
def hasSurrogate : Value → Bool
  | text t => t.any CodePoint.isSurrogate
  | list vs => hasSurrogateList vs
  | tuple vs => hasSurrogateList vs
  | dict entries => hasSurrogateEntries entries
  | _ => false

/-- A text in one of some values has a surrogate. -/
def hasSurrogateList : List Value → Bool
  | [] => false
  | v :: vs => hasSurrogate v || hasSurrogateList vs

def hasSurrogateEntries : List (Value × Value) → Bool
  | [] => false
  | (k, v) :: es => hasSurrogate k || hasSurrogate v || hasSurrogateEntries es

end

end Value

namespace Logging

/-! ## Lines -/

/-- What follows a mark for a colour at the beginning of a text. -/
def afterColour? (t : Text) : Option Text :=
  match t with
  | escape :: bracket :: rest =>
    if escape.val = 0x1B ∧ bracket.is '[' then
      match rest.dropWhile fun c => c.isDigit || c.is ';' with
      | letter :: after => if letter.is 'm' then some after else none
      | [] => none
    else none
  | _ => none

/-- A text without marks for colours. -/
def uncolouredFrom : (fuel : Nat) → Text → Text
  | 0, t => t
  | _, [] => []
  | fuel + 1, c :: rest =>
    match afterColour? (c :: rest) with
    | some after => uncolouredFrom fuel after
    | none => c :: uncolouredFrom fuel rest

/-- A text without marks for colours. -/
def uncoloured (t : Text) : Text := uncolouredFrom t.length t

def firstLine (t : Text) : Text := t.takeWhile fun c => !c.is '\n'

/-! ## Records -/

structure Record where
  level : Level
  message : Text
  extra : List (Text × Value)
  exception : Option Text

namespace Record

/-- The message as it stands on a line. -/
def line (r : Record) : Text := firstLine (uncoloured r.message)

/-- The message or the text of the exception has a surrogate. -/
def hasSurrogate (r : Record) : Bool :=
  r.message.any CodePoint.isSurrogate
    || r.exception.any fun t => t.any CodePoint.isSurrogate

/-- A record as it is put into a plain file. -/
def inPlain? (r : Record) : Option Record := if r.hasSurrogate then none else some r

/-- A record as it is read from a full file. -/
def inFull? (r : Record) : Option Record :=
  if r.hasSurrogate then none
  else
    let recorded (part : Text × Value) : Option (Text × Value) :=
      if part.2.hasSurrogate then none else part.2.recorded?.map fun v => (part.1, v)
    (r.extra.mapM recorded).map fun extra => { r with extra := extra }

end Record

end Logging

end Registry
