import Registry.DateTime.Iso
import Registry.Text.Blank

/-!
# Timestamps in documents

A timestamp is a date, alone or with a time of day and perhaps an offset. Month, day, hour and the
hours of an offset may have one digit; after the date stand a `T` or blanks, and blanks may stand
before the offset. A date alone counts as a timestamp by itself only with two digits each.
-/

namespace Registry.Yaml

/-- The time of day of a timestamp: its clock, and the offset in microseconds if there is one. -/
structure TimestampTime where
  hour : Nat
  minute : Nat
  second : Nat
  microsecond : Nat
  offset : Option Int

/-- The fields of a timestamp, and whether month and day have two digits. -/
structure Timestamp where
  year : Nat
  month : Nat
  day : Nat
  padded : Bool
  time : Option TimestampTime

namespace Timestamp

/-- A number of one or two digits, and what follows it. -/
def oneOrTwo? (t : Text) : Option (Nat × Text) :=
  (Iso.takeDigits? 2 t).or (Iso.takeDigits? 1 t)

/-- What follows a character. -/
def after? (x : Char) : Text → Option Text
  | [] => none
  | c :: rest => if c.is x then some rest else none

/-- A space or tab. -/
def isBlank (c : CodePoint) : Bool := c.is ' ' || c.is '\t'

/-- What follows the separator after a date. -/
def afterSeparator? (t : Text) : Option Text :=
  match t with
  | [] => none
  | c :: rest =>
    if c.is 'T' || c.is 't' then some rest
    else if isBlank c then some (rest.dropWhile isBlank)
    else none

/-- The microseconds of a fraction of a second, and what follows it. -/
def fraction (t : Text) : Nat × Text :=
  match after? '.' t with
  | none => (0, t)
  | some rest =>
    let digits := rest.takeWhile CodePoint.isDigit
    let kept := digits.take 6
    (Text.digitsValue kept * Nat.pow 10 (6 - kept.length), rest.drop digits.length)

/-- The offset at the end of a timestamp, which may be left out. -/
def offset? (t : Text) : Option (Option Int) :=
  if t.isEmpty then some none
  else
    match t.dropWhile isBlank with
    | [] => none
    | c :: rest =>
      if c.is 'Z' then if rest.isEmpty then some (some 0) else none
      else if c.is '+' || c.is '-' then do
        let (hours, rest) ← oneOrTwo? rest
        let minutes ←
          if rest.isEmpty then some 0
          else do
            let (n, rest) ← Iso.takeDigits? 2 (← after? ':' rest)
            if rest.isEmpty then some n else none
        let n : Int := (hours * 60 + minutes) * 60000000
        some (some (if c.is '-' then -n else n))
      else none

/-- The time of day after a separator. -/
def time? (t : Text) : Option TimestampTime := do
  let (hour, t) ← oneOrTwo? t
  let (minute, t) ← Iso.takeDigits? 2 (← after? ':' t)
  let (second, t) ← Iso.takeDigits? 2 (← after? ':' t)
  let (microsecond, t) := fraction t
  return ⟨hour, minute, second, microsecond, ← offset? t⟩

/-- The fields of the timestamp that a text is. -/
def ofText? (t : Text) : Option Timestamp := do
  let (year, t) ← Iso.takeDigits? 4 t
  let afterYear ← after? '-' t
  let (month, t) ← oneOrTwo? afterYear
  let afterMonth ← after? '-' t
  let (day, t) ← oneOrTwo? afterMonth
  let padded := (Iso.takeDigits? 2 afterYear).isSome && (Iso.takeDigits? 2 afterMonth).isSome
  let date (time : Option TimestampTime) : Timestamp := ⟨year, month, day, padded, time⟩
  if t.isEmpty then some (date none) else (time? (← afterSeparator? t)).map fun x => date (some x)

/-- A text counts as a timestamp by itself. -/
def isTimestamp (t : Text) : Bool := (ofText? t).any fun s => s.padded || s.time.isSome

end Timestamp

end Registry.Yaml
