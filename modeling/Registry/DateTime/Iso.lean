import Registry.DateTime
import Registry.Text.Encoding.Utf8
import Registry.Text.Quoted

/-!
# Reading ISO 8601

Stored dates are read as ISO 8601: a calendar date `YYYY-MM-DD` or `YYYYMMDD` or a week date
`YYYY-Www-D`, then any one code point, then a time with an optional offset. Where the date ends is
told by its shape, `separatorIndex`.

A time is fields of two digits, with colons if the first is followed by one, and a fraction of a
second. Digits of a fraction after the sixth are dropped; before an offset one octet after the last
field, or anything after the fraction, is passed over. Positions count the octets of UTF-8, which
are the code points as long as the text is ASCII.
-/

namespace Registry

inductive IsoError
  | malformed (t : Text)
  | year (n : Nat)
  | month
  | day
  | hour
  | minute
  | second
  | offset (microseconds : Int)
deriving DecidableEq

namespace IsoError

/-- A duration by its days, seconds and microseconds, of which only the days can be negative. -/
def durationText (microseconds : Int) : Text :=
  let days := microseconds / 86400000000
  let seconds := microseconds % 86400000000 / 1000000
  let micros := microseconds % 1000000
  let part (name : String) (n : Int) : List Text :=
    if n = 0 then [] else [Text.ofString name ++ Text.ofInt n]
  let parts := part "days=" days ++ part "seconds=" seconds ++ part "microseconds=" micros
  Text.ofString "datetime.timedelta("
    ++ (if parts.isEmpty then Text.ofString "0"
        else (parts.intersperse (Text.ofString ", ")).flatten)
    ++ Text.ofString ")"

def message : IsoError → Text
  | malformed t => Text.ofString "Invalid isoformat string: " ++ t.quoted
  | year n => Text.ofString "year " ++ Text.ofNat n ++ Text.ofString " is out of range"
  | month => "month must be in 1..12"
  | day => "day is out of range for month"
  | hour => "hour must be in 0..23"
  | minute => "minute must be in 0..59"
  | second => "second must be in 0..59"
  | offset n =>
    Text.ofString "offset must be a timedelta strictly between -timedelta(hours=24) and "
      ++ Text.ofString "timedelta(hours=24), not "
      ++ durationText n ++ Text.ofString "."

end IsoError

namespace Iso

/-- The number that the first `count` code points are, and what follows them. -/
def takeDigits? (count : Nat) (t : Text) : Option (Nat × Text) :=
  if (t.take count).length = count ∧ (t.take count).all CodePoint.isDigit then
    some (Text.digitsValue (t.take count), t.drop count)
  else none

/-- A text ends here: nothing follows, or a null. -/
def atEnd (t : Text) : Bool := t.head?.all fun c => c.val == 0

/-- A text goes on with a character. -/
def startsWith (c : Char) (t : Text) : Bool := t.head? == some (CodePoint.ofChar c)

/-- The code point at a position is a character. -/
def hasAt (t : Text) (i : Nat) (c : Char) : Bool := t[i]? == some (CodePoint.ofChar c)

/-- The code point at a position is a digit. -/
def digitAt (t : Text) (i : Nat) : Bool := t[i]?.any CodePoint.isDigit

/-- The position after the date: 10, 8 or 7, told by the places of `-` and `W`. After a week of the
form `YYYY-Www` a hyphen and a digit are the separator and an hour; after `YYYYWww` an odd number of
digits has the day of the week in front. -/
def separatorIndex? (t : Text) : Option Nat :=
  if t.length = 7 then some 7
  else if hasAt t 4 '-' then
    if hasAt t 5 'W' then
      if hasAt t 8 '-' then
        if t.length = 9 then none
        else if digitAt t 10 then some 8
        else some 10
      else some 8
    else some 10
  else if hasAt t 4 'W' then
    let stop := 7 + ((t.drop 7).takeWhile CodePoint.isDigit).length
    if stop < 9 then some stop
    else if stop % 2 = 0 then some 7
    else some 8
  else some 8

/-- A surrogate can stand only where a separator can, and counts as a `T` there. -/
def withoutSurrogate (t : Text) : Text :=
  match [7, 8, 10].find? fun i => t[i]?.any CodePoint.isSurrogate with
  | some i => t.set i 'T'
  | none => t

/-- The year, month and day of a week date, after the `W`; `remaining` code points of the date are
left there. A week of the year 0 has no month. -/
def readWeek? (year : Nat) (hyphens : Bool) (remaining : Nat) (t : Text) :
    Option (Nat × Nat × Nat) := do
  let (week, rest) ← takeDigits? 2 t
  let weekday ←
    if 2 < remaining then
      if hyphens && !startsWith '-' rest then none
      else (takeDigits? 1 (if hyphens then rest.drop 1 else rest)).map (·.1)
    else some 1
  if week = 0 ∨ 53 < week ∨ (week = 53 ∧ (year = 0 ∨ !hasWeek53 year)) ∨ weekday = 0
      ∨ 7 < weekday then
    none
  else if year = 0 then some (1, 0, 0)
  else
    let n := firstMonday year + (week - 1) * 7 + (weekday - 1)
    let found := Date.yearOf n
    let (month, day) := Date.monthAndDay found 11 1 (n - daysBeforeYear found)
    some (found, month, day)

/-- The year, month and day of a date of `length` code points; they need not be in the calendar. -/
def readDate? (length : Nat) (t : Text) : Option (Nat × Nat × Nat) := do
  let (year, rest) ← takeDigits? 4 t
  let hyphens := startsWith '-' rest
  let rest := if hyphens then rest.drop 1 else rest
  if startsWith 'W' rest then
    readWeek? year hyphens (length - (if hyphens then 6 else 5)) (rest.drop 1)
  else
    let (month, rest) ← takeDigits? 2 rest
    if hyphens && !startsWith '-' rest then none
    else
      let (day, _) ← takeDigits? 2 (if hyphens then rest.drop 1 else rest)
      some (year, month, day)

/-- The fields of a time of day, as read, and whether they end with the text. -/
structure Clock where
  fields : List Nat
  microsecond : Nat
  complete : Bool

/-- Reads a fraction of a second, `length` code points before the end of the clock. -/
def readFraction? (fields : List Nat) (length : Nat) (t : Text) : Option Clock := do
  let count := min 6 length
  let (n, rest) ← takeDigits? count t
  some ⟨fields, n * Nat.pow 10 (6 - count), atEnd (rest.dropWhile CodePoint.isDigit)⟩

/-- Reads at most `more` fields and a fraction, from `length` code points before the end of the
clock. Whether fields have colons between them is told after the first. -/
def readClock? : (more : Nat) → (colons : Option Bool) → (fields : List Nat) → (length : Nat) →
    Text → Option Clock
  | 0, _, fields, length, t => readFraction? fields length t
  | more + 1, colons, fields, length, t => do
    let (n, rest) ← takeDigits? 2 t
    let colons := colons.getD (startsWith ':' rest)
    if length ≤ 3 then some ⟨fields ++ [n], 0, atEnd rest⟩
    else if colons && startsWith ':' rest then
      readClock? more (some true) (fields ++ [n]) (length - 3) (rest.drop 1)
    else if startsWith '.' rest || startsWith ',' rest then
      readFraction? (fields ++ [n]) (length - 3) (rest.drop 1)
    else if colons then none
    else readClock? more (some false) (fields ++ [n]) (length - 2) rest

namespace Clock

/-- A field by its position, zero if it is absent. -/
def field (c : Clock) (i : Nat) : Nat := c.fields.getD i 0

/-- The number of whole seconds since midnight. -/
def seconds (c : Clock) : Nat := (c.field 0 * 60 + c.field 1) * 60 + c.field 2

end Clock

def beginsOffset (c : CodePoint) : Bool :=
  c == CodePoint.ofChar '+' || c == CodePoint.ofChar '-' || c == CodePoint.ofChar 'Z'

/-- The offset that a text is, in microseconds. One of less than a second is zero. -/
def readOffset? (t : Text) : Option Int := do
  if startsWith 'Z' t then
    if atEnd (t.drop 1) then some 0 else none
  else
    let clock ← readClock? 3 none [] (t.drop 1).length (t.drop 1)
    if !clock.complete then none
    else if clock.seconds = 0 then some 0
    else
      let n : Int := clock.seconds * 1000000 + clock.microsecond
      some (if startsWith '-' t then -n else n)

/-- The clock and the offset, in microseconds, that a text is. -/
def readTime? (t : Text) : Option (Clock × Option Int) := do
  let length := (t.takeWhile fun c => !beginsOffset c).length
  let clock ← readClock? 3 none [] length t
  match t.drop length with
  | [] => if clock.complete then some (clock, none) else none
  | rest => (readOffset? rest).map fun o => (clock, some o)

/-- The octets of a text, each as a code point. -/
def octetText (t : Text) : Text := (Utf8.encode t).map fun b => CodePoint.ofNat b.toNat

/-- The number of octets of the separator, told by its first. -/
def separatorLength (c : CodePoint) : Nat :=
  if c.val < 0x80 then 1 else if c.val < 0xE0 then 2 else if c.val < 0xF0 then 3 else 4

/-- The date, clock and offset that a sequence of octets is. -/
def readOctets? (t : Text) : Option ((Nat × Nat × Nat) × Clock × Option Int) := do
  let i ← separatorIndex? t
  let date ← readDate? i t
  match t.drop i with
  | [] => some (date, ⟨[], 0, true⟩, none)
  | c :: rest =>
    let (clock, offset) ← readTime? ((c :: rest).drop (separatorLength c))
    some (date, clock, offset)

/-- The date, clock and offset that a text is. -/
def readFields? (t : Text) : Option ((Nat × Nat × Nat) × Clock × Option Int) :=
  if t.length < 7 ∨ (withoutSurrogate t).any CodePoint.isSurrogate then none
  else readOctets? (octetText (withoutSurrogate t))

/-- The offset of a number of microseconds, which must be smaller than a day. -/
def checkOffset : Option Int → Except IsoError (Option Offset)
  | none => .ok none
  | some n =>
    match Offset.of? n with
    | some o => .ok (some o)
    | none => .error (.offset n)

/-- The date of a year, month and day, or the first of them that is out of range. -/
def checkDate (year month day : Nat) : Except IsoError Date :=
  if h : 1 ≤ year ∧ year ≤ 9999 ∧ 1 ≤ month ∧ month ≤ 12 ∧ 1 ≤ day
      ∧ day ≤ daysInMonth year month then
    .ok ⟨year, month, day, h⟩
  else if year < 1 ∨ 9999 < year then .error (.year year)
  else if month < 1 ∨ 12 < month then .error .month
  else .error .day

/-- The time of day of a clock, or its first field that is out of range. -/
def checkTime (c : Clock) : Except IsoError TimeOfDay :=
  if h : c.field 0 < 24 ∧ c.field 1 < 60 ∧ c.field 2 < 60 ∧ c.microsecond < 1000000 then
    .ok ⟨c.field 0, c.field 1, c.field 2, c.microsecond, h⟩
  else if 24 ≤ c.field 0 then .error .hour
  else if 60 ≤ c.field 1 then .error .minute
  else .error .second

/-- The date and time that a text is. An offset out of range is reported before other fields. -/
def read (t : Text) : Except IsoError DateTime :=
  match readFields? t with
  | none => .error (.malformed t)
  | some ((year, month, day), clock, offset) => do
    let offset ← checkOffset offset
    let date ← checkDate year month day
    let time ← checkTime clock
    return ⟨date, time, offset⟩

end Iso

end Registry
