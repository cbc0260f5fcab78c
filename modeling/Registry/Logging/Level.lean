import Registry.Refusal
import Registry.Value

/-!
# Levels

How grave a record is: a name and a number. Some names have fixed numbers; any other number that is
not negative is a level named after it. Libraries know fewer names, and name their other numbers the
same way.
-/

namespace Registry.Logging

def levels : List (String × Int) :=
  [("TRACE", 5), ("DEBUG", 10), ("INFO", 20), ("SUCCESS", 25), ("WARNING", 30), ("ERROR", 40),
    ("CRITICAL", 50)]

def libraryLevels : List (String × Int) :=
  [("DEBUG", 10), ("INFO", 20), ("WARNING", 30), ("ERROR", 40), ("CRITICAL", 50)]

/-- A level of a record; its number may have been given as a truth value. -/
structure Level where
  name : Text
  number : Int
  isTruth : Bool
deriving DecidableEq

namespace Level

/-- The number as it was given. -/
def value (l : Level) : Value := if l.isTruth then .bool (l.number == 1) else .int l.number

def ofName? (name : Text) : Option Level :=
  (levels.find? fun (n, _) => Text.ofString n == name).map fun (_, number) => ⟨name, number, false⟩

def ofNumber (number : Int) (isTruth : Bool) : Level :=
  ⟨Text.ofString "Level " ++ Text.ofInt number, number, isTruth⟩

/-- The name, filled up to eight code points. -/
def column (l : Level) : Text :=
  l.name ++ List.replicate (8 - l.name.length) (CodePoint.ofChar ' ')

/-- The level of records on the configuration itself. -/
def info : Level := ⟨"INFO", 20, false⟩

/-- The refusal of a name without a level. -/
def unknown (name : Text) : Refusal :=
  ⟨.value, Text.ofString "Level '" ++ name ++ Text.ofString "' does not exist"⟩

/-- The refusal of a value that is neither a name nor a number. -/
def noLevel (kind : String) : Refusal :=
  Refusal.kind ("Invalid level, it should be an integer or a string, not: '" ++ kind ++ "'")

/-- The level of a number that is not negative. -/
def ofNumber? (number : Int) (isTruth : Bool) : Except Refusal Level :=
  if number < 0 then
    .error ⟨.value,
      Text.ofString "Invalid level value, it should be a positive integer, not: "
        ++ Text.ofInt number⟩
  else .ok (ofNumber number isTruth)

def ofValue : Value → Except Refusal Level
  | .text name => (ofName? name).elim (.error (unknown name)) .ok
  | .int n => ofNumber? n false
  | .bool b => ofNumber? (if b then 1 else 0) true
  | v => .error (noLevel v.kindName)

/-- The level that a value is in an event of a library. -/
def ofLibraryValue : Value → Except Refusal Level
  | .int n =>
    match libraryLevels.find? fun (_, m) => m == n with
    | some (name, _) => .ok ⟨name, n, false⟩
    | none => .ok (ofNumber n false)
  | .bool b => .ok (ofNumber (if b then 1 else 0) true)
  | _ => .error (Refusal.kind "level must be an integer")

end Level

end Registry.Logging
