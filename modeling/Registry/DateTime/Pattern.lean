import Registry.DateTime
import Registry.Text.Uppercase

/-!
# Patterns for dates

A pattern is a text with directives, each a percent sign, perhaps flags and a width, and a letter
that names a part of a date. `Pattern.fill` writes a date by a pattern: names in English, numbers
filled up with zeros to their usual width. What is no directive stays as it is.
-/

namespace Registry

namespace Pattern

/-! ## Parts of dates -/

/-- The names of the days of a week, which begins on Sunday. -/
def dayNames : List String :=
  ["Sunday", "Monday", "Tuesday", "Wednesday", "Thursday", "Friday", "Saturday"]

def monthNames : List String :=
  ["January", "February", "March", "April", "May", "June", "July", "August", "September",
    "October", "November", "December"]

def nameAt (names : List String) (n : Nat) : Text := Text.ofString ((names[n]?).getD "")

/-- The number of days since Sunday. -/
def weekday (d : Date) : Nat := (d.dayNumber + 1) % 7

/-- The number of days since Monday. -/
def weekdayFromMonday (d : Date) : Nat := d.dayNumber % 7

/-- The number of days since the first of January. -/
def dayOfYear (d : Date) : Nat := d.dayNumber - daysBeforeYear d.year

/-- The year and the number of the week of a date: a week belongs to the year of its Thursday. -/
def isoWeek (d : Date) : Nat × Nat :=
  let year :=
    if d.dayNumber < firstMonday d.year then d.year - 1
    else if firstMonday (d.year + 1) ≤ d.dayNumber then d.year + 1
    else d.year
  (year, (d.dayNumber - firstMonday year) / 7 + 1)

/-- The hour on a clock face. -/
def clockHour (t : TimeOfDay) : Nat := (t.hour + 11) % 12 + 1

/-- The number of seconds since the beginning of 1970, on a clock at UTC. -/
def epochSeconds (d : Date) (t : TimeOfDay) : Int :=
  ((UtcTime.instant ⟨d, t⟩ : Int) - UtcTime.epoch) / 1000000

/-! ## Directives -/

/-- How a directive fills up what it writes. -/
inductive Padding
  | usual
  | spaces
  | zeros
  | none
deriving DecidableEq

/-- The flags and the width of a directive, and the mark of an alternative form. -/
structure Style where
  padding : Padding
  capitals : Bool
  swapsCase : Bool
  width : Nat
  alternative : Option CodePoint

namespace Style

/-- No flags. -/
def plain : Style := ⟨.usual, false, false, 0, Option.none⟩

/-- The capital of a letter that has a single one. -/
def capital (c : CodePoint) : CodePoint := LetterRun.shifted CodePoint.capitalRuns c

/-- A text filled up on the left to the width. -/
def filled (s : Style) (t : Text) : Text :=
  let mark := if s.padding = .zeros then '0' else ' '
  List.replicate (s.width - t.length) (CodePoint.ofChar mark) ++ t

/-- A text in the case that the flags ask for. -/
def word (s : Style) (t : Text) : Text := s.filled (if s.capitals then t.map capital else t)

/-- A number with a usual number of digits. -/
def number (s : Style) (digits : Nat) (standard : Padding) (n : Int) : Text :=
  let padding := if s.padding = .usual then standard else s.padding
  let t := Text.ofInt n
  let missing := max digits s.width - t.length
  match padding with
  | .none => s.filled t
  | .spaces => List.replicate missing (CodePoint.ofChar ' ') ++ t
  | _ =>
    let sign := t.takeWhile (CodePoint.is · '-')
    sign ++ List.replicate missing (CodePoint.ofChar '0') ++ t.drop sign.length

end Style

/-- A directive: its letter, its style, and the text that it is written as. -/
structure Directive where
  style : Style
  letter : CodePoint
  source : Text

inductive Piece
  | literal (c : CodePoint)
  | directive (d : Directive)
  /-- The beginning of a directive at the end of a pattern. -/
  | unfinished (style : Style) (source : Text)

/-- What has been read of a directive. -/
inductive Progress
  | flags
  | width
  | mark
deriving DecidableEq

def Style.withFlag? (s : Style) (c : CodePoint) : Option Style :=
  if c.is '_' then some { s with padding := .spaces }
  else if c.is '-' then some { s with padding := .none }
  else if c.is '0' then some { s with padding := .zeros }
  else if c.is '^' then some { s with capitals := true }
  else if c.is '#' then some { s with swapsCase := true }
  else Option.none

/-- The pieces of a pattern. Outside of a directive `open?` is nothing; inside it is what has been
read of it, the source in reverse. -/
def pieces : (open? : Option (Progress × Style × Text)) → Text → List Piece
  | Option.none, [] => []
  | some (_, style, source), [] => [.unfinished style source.reverse]
  | Option.none, c :: rest =>
    if c.is '%' then pieces (some (.flags, Style.plain, [c])) rest
    else .literal c :: pieces Option.none rest
  | some (progress, style, source), c :: rest =>
    let finish := Piece.directive ⟨style, c, (c :: source).reverse⟩ :: pieces Option.none rest
    let markOrFinish :=
      if progress ≠ .mark ∧ (c.is 'E' ∨ c.is 'O') then
        pieces (some (.mark, { style with alternative := some c }, c :: source)) rest
      else finish
    let widthOrMark :=
      if progress ≠ .mark ∧ c.isDigit then
        pieces (some (.width, { style with width := 10 * style.width + c.digitValue }, c :: source))
          rest
      else markOrFinish
    if progress = .flags then
      match style.withFlag? c with
      | some style => pieces (some (.flags, style, c :: source)) rest
      | Option.none => widthOrMark
    else widthOrMark

/-! ## Writing -/

/-- The texts of usual combinations. -/
def combination? (c : CodePoint) : Option Text :=
  if c.is 'c' then some "%a %b %e %H:%M:%S %Y"
  else if c.is 'x' || c.is 'D' then some "%m/%d/%y"
  else if c.is 'F' then some "%Y-%m-%d"
  else if c.is 'r' then some "%I:%M:%S %p"
  else if c.is 'R' then some "%H:%M"
  else if c.is 'X' || c.is 'T' then some "%H:%M:%S"
  else Option.none

/-- The letters that have an alternative form of a mark. -/
def allowsMark (mark letter : CodePoint) : Bool :=
  let letters :=
    if mark.is 'E' then "CcnpPrRstTuxXyYzZ" else "bBCdegGhHIjklmMnpPrRsStTuUVwWyzZ"
  (Text.ofString letters).contains letter

/-- The text of a name. -/
def name? (d : Date) (t : TimeOfDay) (s : Style) (letter : CodePoint) : Option Text :=
  let spelt : Style := if s.swapsCase then { s with capitals := true } else s
  let half := Text.ofString (if t.hour < 12 then "AM" else "PM")
  let lower := half.map CodePoint.asciiLower
  if letter.is 'a' then some (spelt.word ((nameAt dayNames (weekday d)).take 3))
  else if letter.is 'A' then some (spelt.word (nameAt dayNames (weekday d)))
  else if letter.is 'b' || letter.is 'h' then
    some (spelt.word ((nameAt monthNames (d.month - 1)).take 3))
  else if letter.is 'B' then some (spelt.word (nameAt monthNames (d.month - 1)))
  else if letter.is 'p' then some (s.filled (if s.swapsCase then lower else half))
  else if letter.is 'P' then some (s.filled lower)
  else Option.none

/-- The usual number of digits of a number, how it is filled up, and the number. -/
def number? (d : Date) (t : TimeOfDay) (letter : CodePoint) : Option (Nat × Padding × Int) :=
  let numbers : List (Char × Nat × Padding × Int) :=
    [('C', 1, .zeros, d.year / 100), ('d', 2, .zeros, d.day), ('e', 2, .spaces, d.day),
      ('G', 1, .zeros, (isoWeek d).1), ('g', 2, .zeros, ((isoWeek d).1 % 100 : Nat)),
      ('H', 2, .zeros, t.hour), ('I', 2, .zeros, clockHour t), ('j', 3, .zeros, dayOfYear d + 1),
      ('k', 2, .spaces, t.hour), ('l', 2, .spaces, clockHour t), ('m', 2, .zeros, d.month),
      ('M', 2, .zeros, t.minute), ('S', 2, .zeros, t.second),
      ('u', 1, .zeros, weekdayFromMonday d + 1),
      ('U', 2, .zeros, ((dayOfYear d + 7 - weekday d) / 7 : Nat)),
      ('V', 2, .zeros, (isoWeek d).2), ('w', 1, .zeros, weekday d),
      ('W', 2, .zeros, ((dayOfYear d + 7 - weekdayFromMonday d) / 7 : Nat)),
      ('Y', 1, .zeros, d.year), ('y', 2, .zeros, (d.year % 100 : Nat))]
  (numbers.find? fun (c, _) => letter.is c).map (·.2)

/-- The text of a directive that is no combination; one that has no meaning stays as it is. -/
def simple (d : Date) (t : TimeOfDay) (x : Directive) : Text :=
  let s := x.style
  if x.letter.is '%' then s.filled [x.letter]
  else if s.alternative.any fun mark => !allowsMark mark x.letter then
    let capitals := s.capitals || (s.swapsCase && (x.letter.is 'b' || x.letter.is 'h'))
    { s with capitals := capitals }.word x.source
  else if x.letter.is 's' then s.filled (Text.ofInt (epochSeconds d t))
  else
    match number? d t x.letter, name? d t s x.letter with
    | some (digits, padding, n), _ => s.number digits padding n
    | _, some name => name
    | _, _ =>
      if x.letter.is 'n' then s.filled "\n"
      else if x.letter.is 't' then s.filled "\t"
      else if x.letter.is 'z' then []
      else if x.letter.is 'Z' then if s.padding = .none then [] else s.filled []
      else s.word x.source

/-- The texts of pieces; combinations are filled in `depth` times. -/
def texts (d : Date) (t : TimeOfDay) : (depth : Nat) → Bool → List Piece → Text
  | _, _, [] => []
  | depth, capitals, .literal c :: rest =>
    (if capitals then Style.capital c else c) :: texts d t depth capitals rest
  | depth, capitals, .unfinished style source :: rest =>
    style.word source ++ texts d t depth capitals rest
  | depth, capitals, .directive x :: rest =>
    let style := { x.style with capitals := x.style.capitals || capitals }
    let marked := style.alternative.any fun mark => !allowsMark mark x.letter
    let own :=
      match depth, combination? x.letter with
      | depth + 1, some pattern =>
        if marked then simple d t { x with style := style }
        else style.filled (texts d t depth style.capitals (pieces Option.none pattern))
      | _, _ => simple d t { x with style := style }
    own ++ texts d t depth capitals rest

/-- How long what a pattern is filled to may be: 1024 code points, doubled until that is 256 times
the length of the pattern. What is longer is nothing. -/
def capacity (length : Nat) : Nat :=
  let rec double : Nat → Nat → Nat
    | 0, n => n
    | rounds + 1, n => if 256 * length ≤ n then n else double rounds (2 * n)
  double (length + 1) 1024

/-! ## Offsets and fractions -/

/-- The text of an offset without colons. -/
def offsetText (o : Offset) : Text := o.text.filter fun c => !c.is ':'

/-- The name of the zone of a clock. -/
def zoneText (o : Offset) : Text :=
  if o.microseconds = 0 then "UTC" else Text.ofString "UTC" ++ o.text

/-- A pattern with microsecond, offset and zone filled in. A percent sign inside is doubled, so that
none is read as another directive; the pattern ends at a null code point. -/
def withClock (microsecond : Nat) (offset : Option Offset) : Text → Text
  | [] => []
  | [c] => if c.val = 0 then [] else [c]
  | c :: x :: rest =>
    if c.val = 0 then []
    else if c.is '%' then
      if x.val = 0 then [c]
      else if x.is 'z' then ((offset.map offsetText).getD []) ++ withClock microsecond offset rest
      else if x.is 'Z' then ((offset.map zoneText).getD []) ++ withClock microsecond offset rest
      else if x.is 'f' then Text.padded 6 microsecond ++ withClock microsecond offset rest
      else c :: x :: withClock microsecond offset rest
    else c :: withClock microsecond offset (x :: rest)

/-- A date and a time of day written by a pattern. -/
def fill (d : Date) (t : TimeOfDay) (offset : Option Offset) (pattern : Text) : Text :=
  let pattern := withClock t.microsecond offset pattern
  let written := texts d t 1 false (pieces Option.none pattern)
  if written.length < capacity pattern.length then written else []

end Pattern

end Registry
