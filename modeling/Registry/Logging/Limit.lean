import Registry.Binary64.Reader
import Registry.Refusal
import Registry.Text.Blank
import Registry.Text.Word
import Registry.Value

/-!
# Limits of files

When a file is put aside and a new one begun: beyond a size in octets, or after a time in seconds. A
size is a number of megabytes, and a time a sequence of numbers with units. Files that were put
aside are kept up to a number or for a time.

`Limit.ofSize` reads the limit of a number of megabytes that may be any text, `Limit.checkKept` how
long files are kept.
-/

namespace Registry

/-- The product, rounded. An infinity has none with zero. -/
def Binary64.multiply : Binary64 → Binary64 → Binary64
  | finite a m, finite b n =>
    ofMagnitude? (a != b) (Magnitude.nearest? (m.units * n.units) Magnitude.unitsPerOne)
  | infinite a, finite b n => if n.units = 0 then nan 0 else infinite (a != b)
  | finite a m, infinite b => if m.units = 0 then nan 0 else infinite (a != b)
  | infinite a, infinite b => infinite (a != b)
  | _, _ => nan 0

namespace Logging

inductive Limit
  | octets (n : Binary64)
  | seconds (n : Binary64)

namespace Limit

/-! ## Numbers -/

def isNumberMark (c : CodePoint) : Bool :=
  (Text.ofString "eE+-.").contains c || c.decimalValue?.isSome

/-- A text with ASCII digits. -/
def withPlainDigits (t : Text) : Text :=
  t.map fun c => (c.decimalValue?.map CodePoint.ofHexDigit).getD c

/-- The number that a text is, where one of what is read. -/
def readNumber (what : String) (t : Text) : Except Refusal Binary64 :=
  match Binary64.read? (withPlainDigits t) with
  | some x => .ok x
  | none =>
    .error ⟨.value, Text.ofString ("Invalid float value while parsing " ++ what ++ ": '") ++ t
      ++ Text.ofString "'"⟩

/-! ## Times -/

def isUnitMark (c : CodePoint) : Bool :=
  let l := c.asciiLower
  0x61 ≤ l.val && l.val ≤ 0x7A

/-- What may stand between times. -/
def isGap (c : CodePoint) : Bool := c.isBlank || c.is ','

/-- The units of time, in seconds: a number of them, or of millionths. -/
def units : List (List String × Nat × Bool) :=
  [(["y", "year", "years"], 31536000, false), (["month", "months"], 2628000, false),
    (["w", "week", "weeks"], 604800, false), (["d", "day", "days"], 86400, false),
    (["h", "hour", "hours"], 3600, false), (["min", "mins", "minute", "minutes"], 60, false),
    (["s", "sec", "secs", "second", "seconds"], 1, false),
    (["ms", "millisecond", "milliseconds"], 1000, true),
    (["us", "microsecond", "microseconds"], 1, true)]

def unitLength? (t : Text) : Option Binary64 :=
  let lower := t.map CodePoint.asciiLower
  (units.find? fun (names, _) => names.any fun n => Text.ofString n == lower).map
    fun (_, n, millionths) =>
      if millionths then Binary64.ofDecimal false n (-6) else Binary64.ofInt n

/-- Where the reading of a sequence of times may stand: each of the places is open or not. -/
structure Places where
  start : Bool
  number : Bool
  blanks : Bool
  unit : Bool
  gap : Bool

/-- The places after one more code point. -/
def Places.step (p : Places) (c : CodePoint) : Places where
  start := false
  number := isNumberMark c && (p.start || p.number || p.unit || p.gap)
  blanks := c.isBlank && (p.number || p.blanks)
  unit := isUnitMark c && (p.number || p.blanks || p.unit)
  gap := isGap c && (p.unit || p.gap)

/-- A text is a sequence of times: numbers with units, blanks and commas between them. -/
def isTimes (t : Text) : Bool :=
  let p := t.foldl Places.step ⟨true, false, false, false, false⟩
  p.unit || p.gap

/-- The longest number at the beginning of a text that a unit follows, the unit, and the rest. -/
def time? (t : Text) : Option (Text × Text × Text) :=
  let marks := t.takeWhile isNumberMark
  (List.range marks.length).reverse.findSome? fun n =>
    let rest := (t.drop (n + 1)).dropWhile CodePoint.isBlank
    let unit := rest.takeWhile isUnitMark
    if unit.isEmpty then none
    else some (t.take (n + 1), unit, (rest.drop unit.length).dropWhile isGap)

/-- The times of a text, each a number and a unit; what is none is passed over. -/
def timesFrom : (fuel : Nat) → Text → List (Text × Text)
  | 0, _ => []
  | _, [] => []
  | fuel + 1, c :: rest =>
    match time? (c :: rest) with
    | some (number, unit, after) => (number, unit) :: timesFrom fuel after
    | none => timesFrom fuel rest

/-- Times in seconds, added to a sum one after another. -/
def sumOf (sum : Binary64) : List (Text × Text) → Except Refusal Binary64
  | [] => .ok sum
  | (number, unit) :: rest => do
    let n ← readNumber "duration" number
    match unitLength? unit with
    | some length => sumOf (sum.add (n.multiply length)) rest
    | none =>
      throw ⟨.value, Text.ofString "Invalid unit value while parsing duration: '" ++ unit
        ++ Text.ofString "'"⟩

/-- The most days that a time can have. -/
def mostDays : Int := 999999999

/-- A time in seconds that is not too long. -/
def checkTime (span : Binary64) : Except Refusal Binary64 :=
  match span.floor? with
  | some whole =>
    let days := whole / 86400
    if days < -mostDays ∨ mostDays < days then
      .error (Refusal.size
        (if days < -0x80000000 ∨ 0x7FFFFFFF < days then "Python int too large to convert to C int"
          else "days=" ++ toString days ++ "; must have magnitude <= 999999999"))
    else .ok span
  | none =>
    match span with
    | .nan _ => .error (Refusal.value "cannot convert float NaN to integer")
    | _ => .error (Refusal.size "cannot convert float infinity to integer")

/-- The time that a text is, in seconds. -/
def readTime (t : Text) : Except Refusal (Option Binary64) :=
  let t := t.trim CodePoint.isBlank
  if isTimes t then do
    return some (← checkTime (← sumOf 0 (timesFrom t.length t)))
  else .ok none

/-! ## Times of a day -/

def dayNames : List String :=
  ["monday", "tuesday", "wednesday", "thursday", "friday", "saturday", "sunday"]

/-- A text names a day of a week, or numbers it. -/
def isDay (t : Text) : Bool :=
  let lower := (t.trim CodePoint.isBlank).map CodePoint.asciiLower
  dayNames.any (fun n => Text.ofString n == lower)
    || match lower with
      | c :: digits =>
        c.is 'w' && !digits.isEmpty && digits.all (·.decimalValue?.isSome)
          && decide (Text.digitsValue (withPlainDigits digits) < 7)
      | [] => false

/-- The texts before and after the first `at` between blanks, on one line. -/
def splitAt? : (before : Text) → Text → Option (Text × Text)
  | _, [] => none
  | before, c :: rest =>
    let after := (c :: rest).dropWhile CodePoint.isBlank
    let word := after.take 2
    let tail := (after.drop 2).dropWhile CodePoint.isBlank
    if c.isBlank && (word.map CodePoint.asciiLower) == Text.ofString "at"
        && (after.drop 2).head?.any CodePoint.isBlank && !tail.any (CodePoint.is · '\n') then
      some (before.reverse, tail)
    else if c.is '\n' then none
    else splitAt? (c :: before) rest

/-- The refusal of a day or of a time on it. -/
def noDaytime (what : String) (t : Text) : Refusal :=
  ⟨.value, Text.ofString ("Invalid " ++ what ++ " while parsing daytime: '") ++ t
    ++ Text.ofString "'"⟩

/-! ## Limits -/

/-- The limit of a number of megabytes. A text that is no number may be times, or a day and a time,
none of which has its unit in megabytes. -/
def ofSize (size : Text) : Except Refusal Limit := do
  let number := size.trim CodePoint.isBlank
  if !number.isEmpty && number.all isNumberMark then
    return .octets ((← readNumber "size" number).scale 1000000)
  let t := size ++ Text.ofString " MB"
  match ← readTime t with
  | some n => return .seconds n
  | none =>
    match splitAt? [] (t.trim CodePoint.isBlank) with
    | some (day, time) =>
      throw (if isDay day then noDaytime "time" time else noDaytime "day" day)
    | none =>
      throw ⟨.value, Text.ofString "Cannot parse rotation from: '" ++ t ++ Text.ofString "'"⟩

/-- The refusal of a kind of value as that for how long files are kept. -/
def noKept (kind : String) : Refusal :=
  Refusal.kind ("Cannot infer retention for objects of type: '" ++ kind ++ "'")

/-- Checks for how long files are kept that were put aside: for ever, up to a number, or for a time.
-/
def checkKept (v : Value) : Except Refusal Unit :=
  match v with
  | .null => .ok ()
  | .int _ => .ok ()
  | .bool _ => .ok ()
  | .text t => do
    if (← readTime t).isNone then
      throw ⟨.value, Text.ofString "Cannot parse retention from: '" ++ t ++ Text.ofString "'"⟩
  | v => .error (noKept v.kindName)

end Limit

end Logging

end Registry
