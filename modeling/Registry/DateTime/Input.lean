import Registry.DateTime
import Registry.Binary64

/-!
# Dates in input fields

A field for a date takes more than its text form: a date alone, a date and a time with or without an
offset, and a number, which counts seconds, or milliseconds if it is large, since the epoch. The
text form is strict in its fields, all of two digits.
-/

namespace Registry

/-- Why an input is no date: its text has none of the forms, or the calendar does not reach it. -/
inductive DateInputError
  | form
  | range
deriving DecidableEq

namespace DateInput

/-- Up to this absolute value a number counts seconds, above it milliseconds. -/
def secondsLimit : Nat := 20000000000

/-- The reading at UTC of a number of microseconds since the epoch. One beyond the years 0 to 9999
has the error that its source gives; one in the year 0 is out of range. -/
def ofEpoch (beyond : DateInputError) (microseconds : Int) : Except DateInputError DateTime :=
  let seconds := microseconds / 1000000
  if seconds < -62167219200 ∨ 253402300799 < seconds then .error beyond
  else
    match UtcTime.ofInstant? (UtcTime.epoch + microseconds) with
    | some u => .ok u.toDateTime
    | none => .error .range

/-- The date that an integer counts to. -/
def ofInt (beyond : DateInputError) (n : Int) : Except DateInputError DateTime :=
  ofEpoch beyond (if n.natAbs ≤ secondsLimit then n * 1000000 else n * 1000)

/-- The date that a floating-point number counts to: what is beyond a whole number of seconds or
milliseconds is rounded to microseconds. -/
def ofBinary64 (beyond : DateInputError) (x : Binary64) : Except DateInputError DateTime :=
  let unit : Nat := if x.exceeds secondsLimit then 1000 else 1000000
  match x.floor? with
  | none => .error .range
  | some n => ofEpoch beyond (n * unit + (x.fractional.scale unit).roundHalfUp)

/-- The number of two digits at the beginning of a text, and what follows it. -/
def twoDigits? : Text → Option (Nat × Text)
  | a :: b :: rest =>
    if a.isDigit && b.isDigit then some (a.digitValue * 10 + b.digitValue, rest) else none
  | _ => none

/-- What follows a character at the beginning of a text. -/
def dropChar? (c : Char) : Text → Option Text
  | a :: rest => if a = CodePoint.ofChar c then some rest else none
  | [] => none

/-- Year, month and day at the beginning of a text, and what follows them. The year may be 0. -/
def takeDate? (t : Text) : Option ((Nat × Nat × Nat) × Text) := do
  let (century, t) ← twoDigits? t
  let (yearOfCentury, t) ← twoDigits? t
  let (month, t) ← twoDigits? (← dropChar? '-' t)
  let (day, t) ← twoDigits? (← dropChar? '-' t)
  let year := century * 100 + yearOfCentury
  if 1 ≤ month ∧ month ≤ 12 ∧ 1 ≤ day ∧ day ≤ daysInMonth year month then
    some ((year, month, day), t)
  else none

/-- An optional fraction of a second in microseconds, and what follows it. -/
def takeFraction? (t : Text) : Option (Nat × Text) :=
  match t with
  | c :: rest =>
    if c = CodePoint.ofChar '.' ∨ c = CodePoint.ofChar ',' then
      let digits := rest.takeWhile CodePoint.isDigit
      let kept := digits.take 6
      if digits.isEmpty then none
      else
        some (Text.digitsValue kept * Nat.pow 10 (6 - kept.length),
          rest.dropWhile CodePoint.isDigit)
    else some (0, t)
  | [] => some (0, [])

/-- A time of day at the beginning of a text, and what follows it. -/
def takeTime? (t : Text) : Option (TimeOfDay × Text) := do
  let (hour, t) ← twoDigits? t
  let (minute, t) ← twoDigits? (← dropChar? ':' t)
  match dropChar? ':' t with
  | none => return (← TimeOfDay.of? hour minute 0 0, t)
  | some t =>
    let (second, t) ← twoDigits? t
    let (microsecond, t) ← takeFraction? t
    return (← TimeOfDay.of? hour minute second microsecond, t)

/-- The sign that a code point is; the mathematical minus is one too. -/
def sign? (c : CodePoint) : Option Int :=
  if c = CodePoint.ofChar '+' then some 1
  else if c = CodePoint.ofChar '-' ∨ c.val = 0x2212 then some (-1)
  else none

/-- The offset that a text is: nothing, the letter Z, or hours and minutes after a sign. -/
def readOffset? : Text → Option (Option Offset)
  | [] => some none
  | c :: rest =>
    if c.asciiLower = CodePoint.ofChar 'z' then
      if rest.isEmpty then some (some 0) else none
    else do
      let sign ← sign? c
      let (hour, rest) ← twoDigits? rest
      let (minute, rest) ← twoDigits? ((dropChar? ':' rest).getD rest)
      if rest.isEmpty ∧ hour < 24 ∧ minute < 60 then
        (Offset.of? (sign * ((hour * 60 + minute : Nat) * 60000000))).map some
      else none

/-- A code point that stands between a date and a time. -/
def isSeparator (c : CodePoint) : Bool :=
  c == CodePoint.ofChar 'T' || c == CodePoint.ofChar 't' || c == CodePoint.ofChar ' '
    || c == CodePoint.ofChar '_'

/-- The date, time and offset that a text is. -/
def readCalendar? (t : Text) : Option ((Nat × Nat × Nat) × TimeOfDay × Option Offset) := do
  let (date, rest) ← takeDate? t
  match rest with
  | [] => some (date, TimeOfDay.midnight, none)
  | c :: rest =>
    if isSeparator c then
      let (time, rest) ← takeTime? rest
      let offset ← readOffset? rest
      some (date, time, offset)
    else none

/-- A number in a text: its sign, its digits, and the digits of its fraction if it has a point.
There may be none before a point, or none after it. -/
structure Count where
  negative : Bool
  whole : Text
  fraction : Option Text

/-- The number that a text is. -/
def readCount? (t : Text) : Option Count :=
  let (negative, digits) :=
    match t with
    | c :: rest =>
      if c = CodePoint.ofChar '-' then (true, rest)
      else if c = CodePoint.ofChar '+' then (false, rest)
      else (false, t)
    | [] => (false, t)
  let whole := digits.takeWhile CodePoint.isDigit
  match digits.dropWhile CodePoint.isDigit with
  | [] => if whole.isEmpty then none else some ⟨negative, whole, none⟩
  | c :: fraction =>
    if c = CodePoint.ofChar '.' ∧ fraction.all CodePoint.isDigit
        ∧ !(whole.isEmpty && fraction.isEmpty) then
      some ⟨negative, whole, some fraction⟩
    else none

/-- The date that a number in a text counts to. -/
def ofCount (c : Count) : Except DateInputError DateTime :=
  let n : Int := Text.digitsValue c.whole
  match c.fraction with
  | none => ofInt .form (if c.negative then -n else n)
  | some fraction =>
    ofBinary64 .form (Binary64.ofDecimal c.negative (Text.digitsValue (c.whole ++ fraction))
      (-(fraction.length : Int)))

def ofText (t : Text) : Except DateInputError DateTime :=
  match readCalendar? t with
  | some ((year, month, day), time, offset) =>
    match Date.of? year month day with
    | some date => .ok ⟨date, time, offset⟩
    | none => .error .range
  | none =>
    match readCount? t with
    | some c => ofCount c
    | none => .error .form

end DateInput

end Registry
