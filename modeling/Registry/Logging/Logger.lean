import Registry.Text

/-!
# Loggers

The loggers of libraries form a hierarchy by dotted names: a logger without a level has that of the
nearest logger above it. One logger is above all others; it goes by the empty name as well as by a
name of its own.
-/

namespace Registry.Logging

/-- The name of the logger above all others. -/
def rootName : Text := "root"

abbrev Loggers := List (Text × Int)

/-- The names of a logger and of those above it, the nearest first; the logger above all has none.
-/
def lineage (name : Text) : List Text :=
  (List.range (name.length + 1)).reverse.filterMap fun n =>
    if n = name.length ∨ (name.drop n).head?.any (CodePoint.is · '.') then some (name.take n)
    else none

/-- The logger of a name is the one above all. -/
def isRoot (name : Text) : Bool := name.isEmpty || name == rootName

/-- The level of a logger or of the nearest above it that has one. -/
def effectiveLevel (loggers : Loggers) (name : Text) : Int :=
  if isRoot name then 0
  else
    ((lineage name).findSome? fun n =>
      (loggers.find? fun (m, level) => m == n && level != 0).map (·.2)).getD 0

/-- The levels of loggers after a logger has been given one. -/
def setLevel (loggers : Loggers) (name : Text) (level : Int) : Loggers :=
  (name, level) :: loggers.filter fun (m, _) => m != name

/-- A logger that was there before: whether it hands its events on, and its level. -/
structure EarlierLogger where
  name : Text
  propagates : Bool
  level : Int

/-- The loggers that the database quiets, and the level it quiets them to. -/
def quieted : List Text := ["sqlalchemy.engine", "sqlalchemy.pool"]

def quietLevel : Int := 30

def earlierLevels (l : List EarlierLogger) : Loggers :=
  l.foldl (fun loggers e => setLevel loggers e.name e.level) [("sqlalchemy", quietLevel)]

def configuredLevels (l : List EarlierLogger) : Loggers :=
  quieted.foldl (fun loggers name => setLevel loggers name quietLevel) (earlierLevels l)

/-- Whether the logger above all hands its events on: what was said last. -/
def rootPropagates (l : List EarlierLogger) : Bool :=
  ((l.reverse.find? fun e => isRoot e.name).map (·.propagates)).getD true

/-- The number of handlers of an earlier logger after configuring, and whether it hands its events
on: only the logger above all keeps a handler and what was said of it. -/
def afterConfiguring (l : List EarlierLogger) (e : EarlierLogger) : Nat × Bool :=
  if isRoot e.name then (1, rootPropagates l) else (0, true)

end Registry.Logging
