import Registry.Calendar

/-!
# Dates with a time of day

A `DateTime` is a wall-clock reading with an optional offset from UTC, in microseconds and smaller
than a day; a `UtcTime` is the reading of a clock at UTC. Instants are counted in microseconds from
the beginning of the year 1. `DateTime.toUtc?` gives the reading at UTC of the same instant, and
nothing when that leaves the calendar.
-/

namespace Registry

structure TimeOfDay where
  hour : Nat
  minute : Nat
  second : Nat
  microsecond : Nat
  valid : hour < 24 ∧ minute < 60 ∧ second < 60 ∧ microsecond < 1000000
deriving DecidableEq

def microsecondsPerDay : Nat := 86400000000

namespace TimeOfDay

/-- The time of day of given hour, minute, second and microsecond, if there is one. -/
def of? (hour minute second microsecond : Nat) : Option TimeOfDay :=
  if h : hour < 24 ∧ minute < 60 ∧ second < 60 ∧ microsecond < 1000000 then
    some ⟨hour, minute, second, microsecond, h⟩
  else none

def midnight : TimeOfDay := ⟨0, 0, 0, 0, by decide⟩

/-- The number of microseconds since midnight. -/
def microseconds (t : TimeOfDay) : Nat :=
  ((t.hour * 60 + t.minute) * 60 + t.second) * 1000000 + t.microsecond

/-- The time of day a number of microseconds after midnight, modulo a day. -/
def ofMicroseconds (n : Nat) : TimeOfDay where
  hour := n / 3600000000 % 24
  minute := n / 60000000 % 60
  second := n / 1000000 % 60
  microsecond := n % 1000000
  valid := by omega

end TimeOfDay

/-- How far a wall clock is ahead of UTC, in microseconds. -/
structure Offset where
  microseconds : Int
  bounded : -86400000000 < microseconds ∧ microseconds < 86400000000
deriving DecidableEq

namespace Offset

instance : Zero Offset := ⟨⟨0, by decide⟩⟩

/-- The offset of a number of microseconds, if that is smaller than a day. -/
def of? (n : Int) : Option Offset :=
  if h : -86400000000 < n ∧ n < 86400000000 then some ⟨n, h⟩ else none

/-- The text `+HH:MM`, with seconds and microseconds if there are any. -/
def text (o : Offset) : Text :=
  let n := o.microseconds.natAbs
  let seconds := n / 1000000 % 60
  let micros := n % 1000000
  Text.ofString (if o.microseconds < 0 then "-" else "+") ++ Text.padded 2 (n / 3600000000)
    ++ Text.ofString ":" ++ Text.padded 2 (n / 60000000 % 60)
    ++ (if seconds = 0 ∧ micros = 0 then [] else Text.ofString ":" ++ Text.padded 2 seconds)
    ++ (if micros = 0 then [] else Text.ofString "." ++ Text.padded 6 micros)

end Offset

/-- The text of a time of day, hours to seconds. -/
def TimeOfDay.clockText (t : TimeOfDay) : Text :=
  Text.padded 2 t.hour ++ Text.ofString ":" ++ Text.padded 2 t.minute ++ Text.ofString ":"
    ++ Text.padded 2 t.second

/-- The text under which a reading is stored: 26 code points. -/
def storedText (date : Date) (time : TimeOfDay) : Text :=
  date.text ++ Text.ofString " " ++ time.clockText ++ Text.ofString "."
    ++ Text.padded 6 time.microsecond

/-- The reading of a clock at UTC. -/
structure UtcTime where
  date : Date
  time : TimeOfDay
deriving DecidableEq

namespace UtcTime

/-- The instant in microseconds since the beginning of the year 1. -/
def instant (u : UtcTime) : Nat := u.date.dayNumber * microsecondsPerDay + u.time.microseconds

/-- The reading at an instant, if the calendar has it. -/
def ofInstant? (i : Int) : Option UtcTime :=
  if 0 ≤ i then
    (Date.ofDayNumber? (i.toNat / microsecondsPerDay)).map fun date =>
      ⟨date, TimeOfDay.ofMicroseconds (i.toNat % microsecondsPerDay)⟩
  else none

/-- The instant 1970-01-01T00:00:00. -/
def epoch : Int := 719162 * 86400000000

end UtcTime

/-- A wall-clock reading, with the offset of the clock if that is known. -/
structure DateTime where
  date : Date
  time : TimeOfDay
  offset : Option Offset
deriving DecidableEq

/-- The reading at UTC as one of a clock with offset zero. -/
def UtcTime.toDateTime (u : UtcTime) : DateTime := ⟨u.date, u.time, some 0⟩

namespace DateTime

/-- The instant in microseconds since the beginning of the year 1 at UTC. A reading without an
offset is one of a clock at UTC. -/
def instant (d : DateTime) : Int :=
  (UtcTime.mk d.date d.time).instant - match d.offset with
    | some o => o.microseconds
    | none => 0

/-- The reading at UTC of the same instant. -/
def toUtc? (d : DateTime) : Option UtcTime :=
  match d.offset with
  | none => some ⟨d.date, d.time⟩
  | some _ => UtcTime.ofInstant? d.instant

/-- The text with a separator between date and time; microseconds and offset only if there are any.
-/
def separatedText (d : DateTime) (separator : Char) : Text :=
  d.date.text ++ [CodePoint.ofChar separator] ++ d.time.clockText
    ++ (if d.time.microsecond = 0 then []
        else Text.ofString "." ++ Text.padded 6 d.time.microsecond)
    ++ match d.offset with
      | some o => o.text
      | none => []

/-- The text in the form of ISO 8601. -/
def isoText (d : DateTime) : Text := d.separatedText 'T'

/-- The text with a space between date and time. -/
def spacedText (d : DateTime) : Text := d.separatedText ' '

end DateTime

end Registry
