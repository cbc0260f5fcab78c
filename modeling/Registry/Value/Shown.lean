import Registry.Binary64.Shortest
import Registry.Text.Quoted
import Registry.Value

/-!
# Values in messages

How values are shown to a reader. `Value.shown` tells the kinds of values apart, texts from numbers
by quotes; `Value.plainText` leaves the quotes of a text away and gives dates in the usual form.
`Text.asciiOnly` keeps what is shown within ASCII.
-/

namespace Registry

/-! ## Octets -/

def Octets.escapeQuoted (quote : CodePoint) (b : UInt8) : Text :=
  let c := CodePoint.ofNat b.toNat
  if c = quote ∨ c = CodePoint.ofChar '\\' then [CodePoint.ofChar '\\', c]
  else if c = CodePoint.ofChar '\n' then "\\n"
  else if c = CodePoint.ofChar '\r' then "\\r"
  else if c = CodePoint.ofChar '\t' then "\\t"
  else if 0x20 ≤ c.val ∧ c.val < 0x7F then [c]
  else Text.ofString "\\x" ++ Text.hex 2 c.val

/-- The octets between quotes, after the letter `b`. -/
def Octets.quoted (b : Octets) : Text :=
  let quote := Text.quoteOf (b.map fun x => CodePoint.ofNat x.toNat)
  CodePoint.ofChar 'b' :: quote :: b.flatMap (Octets.escapeQuoted quote) ++ [quote]

example : Octets.quoted [0xE9, 0x62, 0xFF] = Text.ofString "b'\\xe9b\\xff'" := by decide +kernel

/-! ## Dates -/

/-- Parts between two marks, with commas. -/
def listed (left right : String) (parts : List Text) : Text :=
  Text.ofString left ++ (parts.intersperse (Text.ofString ", ")).flatten ++ Text.ofString right

def Date.shown (d : Date) : Text :=
  listed "datetime.date(" ")" ([d.year, d.month, d.day].map Text.ofNat)

/-- How an offset is shown as a value: as the difference in days, seconds and microseconds, of
which only the days can be negative. -/
def Offset.shown (o : Offset) : Text :=
  let day : Int := microsecondsPerDay
  let part (name : String) (n : Int) : List Text :=
    if n = 0 then [] else [Text.ofString name ++ Text.ofInt n]
  if o.microseconds = 0 then "datetime.timezone.utc"
  else
    listed "datetime.timezone(datetime.timedelta(" "))"
      (part "days=" (o.microseconds / day) ++ part "seconds=" (o.microseconds % day / 1000000)
        ++ part "microseconds=" (o.microseconds % 1000000))

/-- How a date with a time is shown as a value: seconds and microseconds only as far as there are
any. -/
def DateTime.shown (d : DateTime) : Text :=
  let seconds :=
    if d.time.microsecond ≠ 0 then [d.time.second, d.time.microsecond]
    else if d.time.second ≠ 0 then [d.time.second]
    else []
  let numbers := [d.date.year, d.date.month, d.date.day, d.time.hour, d.time.minute] ++ seconds
  let zone := d.offset.toList.map fun o => Text.ofString "tzinfo=" ++ o.shown
  listed "datetime.datetime(" ")" (numbers.map Text.ofNat ++ zone)

/-! ## Values -/

namespace Value

mutual

def shown : Value → Text
  | null => "None"
  | bool b => Text.ofString (if b then "True" else "False")
  | int n => Text.ofInt n
  | float x => x.text
  | text t => t.quoted
  | bytes b => Octets.quoted b
  | list vs => listed "[" "]" (shownItems vs)
  | tuple vs => listed "(" (if vs.length = 1 then ",)" else ")") (shownItems vs)
  | dict es => listed "\x7b" "\x7d" (shownEntries es)
  | dateTime d => d.shown
  | date d => d.shown
  | enclosing _ => "[...]"
  | other .set => "\x7b1\x7d"
  | other (.object _) => "<object object>"
  | other .complex => "1j"

def shownItems : List Value → List Text
  | [] => []
  | v :: vs => shown v :: shownItems vs

def shownEntries : List (Value × Value) → List Text
  | [] => []
  | (k, v) :: es => (shown k ++ Text.ofString ": " ++ shown v) :: shownEntries es

end

def plainText : Value → Text
  | text t => t
  | dateTime d => d.spacedText
  | date d => d.text
  | v => shown v

end Value

/-- A text with everything beyond ASCII escaped. -/
def Text.asciiOnly (t : Text) : Text :=
  t.flatMap fun c =>
    if c.val < 0x80 then [c]
    else if c.val < 0x100 then ofString "\\x" ++ hex 2 c.val
    else if c.val < 0x10000 then ofString "\\u" ++ hex 4 c.val
    else ofString "\\U" ++ hex 8 c.val

end Registry
