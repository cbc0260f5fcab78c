import Registry.Failure
import Registry.Text.Word
import Registry.Value.Member

/-!
# Forms of values in messages

A form says how a value is written in a message: what fills it up to a width and on which side, the
sign of a number, how digits are grouped, how many places there are, and a letter for the notation.
`Form.read` reads the text of a form, `Form.write` writes a value in it. Dates are written by
patterns; other values than texts, numbers and dates have no forms.
-/

namespace Registry

/-- Why a value has no text in a form. -/
inductive FormError
  | manyDigits
  | missingPrecision
  | wrongEnd (form : Text) (kind : String)
  | bothGroupings
  | groupedLetter (grouping letter : CodePoint)
  | letter (c : CodePoint) (kind : String)
  | noForms (kind : String)
  | signOfText (space : Bool)
  | zeroOfText
  | alternateText
  | alignedText
  | precisionOfInteger
  | zeroOfInteger
  | signOfCharacter
  | alternateCharacter
  | largeCharacter
  | noCharacter
  | largeInteger
  | largePrecision
  | zeroesOfComplex
  | alignedComplex
  | unencodable (e : EncodeError)
  | memory
deriving DecidableEq

namespace FormError

def sort : FormError → ErrorSort
  | noForms _ => .type
  | largeCharacter => .overflow
  | noCharacter => .overflow
  | largeInteger => .overflow
  | memory => .memory
  | unencodable _ => .encoding
  | _ => .value

/-- A letter as errors show it: beyond printable ASCII by its number. -/
def letterText (c : CodePoint) : Text :=
  Text.ofString "'"
    ++ (if 0x20 < c.val ∧ c.val < 0x80 then [c]
        else Text.ofString "\\x" ++ (Nat.toDigits 16 c.val).map CodePoint.ofChar)
    ++ Text.ofString "'"

/-- The wording of an error. -/
def message : FormError → Text
  | manyDigits => "Too many decimal digits in format string"
  | missingPrecision => "Format specifier missing precision"
  | wrongEnd form kind =>
    Text.ofString "Invalid format specifier '" ++ form
      ++ Text.ofString ("' for object of type '" ++ kind ++ "'")
  | bothGroupings => "Cannot specify both ',' and '_'."
  | groupedLetter g c =>
    Text.ofString "Cannot specify '" ++ [g] ++ Text.ofString "' with " ++ letterText c
      ++ Text.ofString "."
  | letter c kind =>
    Text.ofString "Unknown format code " ++ letterText c
      ++ Text.ofString (" for object of type '" ++ kind ++ "'")
  | noForms kind => Text.ofString ("unsupported format string passed to " ++ kind ++ ".__format__")
  | signOfText false => "Sign not allowed in string format specifier"
  | signOfText true => "Space not allowed in string format specifier"
  | zeroOfText => "Negative zero coercion (z) not allowed in string format specifier"
  | alternateText => "Alternate form (#) not allowed in string format specifier"
  | alignedText => "'=' alignment not allowed in string format specifier"
  | precisionOfInteger => "Precision not allowed in integer format specifier"
  | zeroOfInteger => "Negative zero coercion (z) not allowed in integer format specifier"
  | signOfCharacter => "Sign not allowed with integer format specifier 'c'"
  | alternateCharacter => "Alternate form (#) not allowed with integer format specifier 'c'"
  | largeCharacter => "Python int too large to convert to C long"
  | noCharacter => "%c arg not in range(0x110000)"
  | largeInteger => "int too large to convert to float"
  | largePrecision => "precision too big"
  | zeroesOfComplex => "Zero padding is not allowed in complex format specifier"
  | alignedComplex => "'=' alignment flag is not allowed in complex format specifier"
  | unencodable e => e.message
  | memory => []

end FormError

/-- Where a value stands in its width; `afterSign` fills up between the sign and the digits. -/
inductive Alignment
  | left
  | right
  | centre
  | afterSign
deriving DecidableEq

/-- How a value is written. -/
structure Form where
  fill : CodePoint
  alignment : Alignment
  sign : Option CodePoint
  coercesZero : Bool
  alternate : Bool
  width : Nat
  grouping : Option CodePoint
  precision : Option Nat
  letter : Option CodePoint

namespace Form

/-! ## Reading -/

def alignmentOf? (c : CodePoint) : Option Alignment :=
  if c.is '<' then some .left
  else if c.is '>' then some .right
  else if c.is '^' then some .centre
  else if c.is '=' then some .afterSign
  else none

def largestNumber : Nat := 0x7FFFFFFFFFFFFFFF

/-- The longest text that is written. -/
def longest : Nat := 100000000

/-- A number at the beginning of a text, if there is one, and what follows it. Digits may be of any
script. -/
def readNumber (t : Text) : Except FormError (Option Nat × Text) :=
  let digits := (t.map CodePoint.decimalValue?).takeWhile Option.isSome
  let n := digits.foldl (fun n d => 10 * n + d.getD 0) 0
  if largestNumber < n then .error .manyDigits
  else .ok (if digits.isEmpty then none else some n, t.drop digits.length)

/-- A mark at the beginning of a text, and what follows it. -/
def readMark (mark : Char) (t : Text) : Bool × Text :=
  if t.head?.any (CodePoint.is · mark) then (true, t.drop 1) else (false, t)

/-- The fill and the alignment at the beginning of a form, and what follows them. -/
def readAlignment (t : Text) : Option CodePoint × Option Alignment × Text :=
  match t with
  | fill :: mark :: rest =>
    match alignmentOf? mark, alignmentOf? fill with
    | some a, _ => (some fill, some a, rest)
    | none, some a => (none, some a, mark :: rest)
    | none, none => (none, none, t)
  | [mark] =>
    match alignmentOf? mark with
    | some a => (none, some a, [])
    | none => (none, none, t)
  | [] => (none, none, [])

/-- The sign at the beginning of a text, and what follows it. -/
def readSign (t : Text) : Option CodePoint × Text :=
  match t with
  | c :: rest => if c.is '+' || c.is '-' || c.is ' ' then (some c, rest) else (none, t)
  | [] => (none, [])

/-- The grouping at the beginning of a text, and what follows it. -/
def readGrouping (t : Text) : Except FormError (Option CodePoint × Text) :=
  let (comma, t) := readMark ',' t
  let (underscore, t) := readMark '_' t
  let (again, _) := readMark ',' t
  if underscore && (comma || again) then .error .bothGroupings
  else if comma then .ok (some (CodePoint.ofChar ','), t)
  else if underscore then .ok (some (CodePoint.ofChar '_'), t)
  else .ok (none, t)

/-- The precision at the beginning of a text, and what follows it. -/
def readPrecision (t : Text) : Except FormError (Option Nat × Text) :=
  match readMark '.' t with
  | (true, t) =>
    match readNumber t with
    | .error e => .error e
    | .ok (none, _) => .error .missingPrecision
    | .ok (some n, t) => .ok (some n, t)
  | (false, t) => .ok (none, t)

/-- A letter that digits can be grouped for. -/
def allowsGrouping (grouping : CodePoint) (letter : Option CodePoint) : Bool :=
  match letter with
  | none => true
  | some c =>
    c.val == 0 || (Text.ofString "deEfFgG%").contains c
      || (grouping.is '_' && (Text.ofString "boxX").contains c)

/-- The form that a text is, for values of a kind with a usual letter and alignment. A null counts
as no letter for values without a usual one. -/
def read (t : Text) (kind : String) (usualLetter : Option CodePoint) (usualAlignment : Alignment) :
    Except FormError Form := do
  let (fill, alignment, rest) := readAlignment t
  let (sign, rest) := readSign rest
  let (coercesZero, rest) := readMark 'z' rest
  let (alternate, rest) := readMark '#' rest
  let (zeros, rest) := if fill.isNone then readMark '0' rest else (false, rest)
  let (width, rest) ← readNumber rest
  let (grouping, rest) ← readGrouping rest
  let (precision, rest) ← readPrecision rest
  if 1 < rest.length then throw (.wrongEnd t kind)
  let letter := (rest.head?.filter fun c => c.val != 0 || usualLetter.isSome).or usualLetter
  match grouping with
  | some g =>
    if !allowsGrouping g letter then throw (.groupedLetter g (letter.getD g))
  | none => pure ()
  let usual := if zeros && usualAlignment == .right then .afterSign else usualAlignment
  return {
    fill := if zeros then CodePoint.ofChar '0' else fill.getD (CodePoint.ofChar ' ')
    alignment := alignment.getD usual
    sign := sign
    coercesZero := coercesZero
    alternate := alternate
    width := width.getD 0
    grouping := grouping
    precision := precision
    letter := letter }

/-- The letter of a form is one of some. -/
def hasLetter (f : Form) (letters : String) : Bool :=
  f.letter.any fun c => (Text.ofString letters).contains c

/-- The letter of a form, a space if it has none. -/
def letterMark (f : Form) : CodePoint := f.letter.getD (CodePoint.ofChar ' ')

/-! ## Filling up -/

/-- Copies of the fill of a form. -/
def filling (f : Form) (n : Nat) : Text := List.replicate n f.fill

/-- A text filled up to the width of a form. -/
def pad (f : Form) (t : Text) : Text :=
  let missing := f.width - t.length
  match f.alignment with
  | .left => t ++ f.filling missing
  | .centre => f.filling (missing / 2) ++ t ++ f.filling (missing - missing / 2)
  | _ => f.filling missing ++ t

/-- Digits in reverse, with a separator after every group and zeros up to a least length. -/
def groupedFrom (size : Nat) (separator : CodePoint) (digits : Text) (least : Nat) : Text :=
  let length := min (max size 1) (max (max digits.length least) 1)
  let group := digits.take length ++ List.replicate (length - digits.length) (CodePoint.ofChar '0')
  if digits.length ≤ length ∧ least ≤ length then group
  else group ++ separator :: groupedFrom size separator (digits.drop length) (least - length - 1)
termination_by digits.length + least
decreasing_by
  simp only [List.length_drop]
  omega

/-- Digits with a separator between groups of a size, or none, and zeros up to a least length. -/
def grouped (separator : Option CodePoint) (size : Nat) (digits : Text) (least : Nat) : Text :=
  match separator with
  | some c => (groupedFrom size c digits.reverse least).reverse
  | none => List.replicate (least - digits.length) (CodePoint.ofChar '0') ++ digits

/-- The sign of a number as a form shows it. -/
def signText (f : Form) (negative : Bool) : Text :=
  if negative then "-"
  else
    match f.sign with
    | some c => if c.is '-' then [] else [c]
    | none => []

/-- The number of digits in a group. -/
def groupSize (f : Form) : Nat := if f.hasLetter "boxX" then 4 else 3

/-- A number of a sign, a mark of its base, digits and what follows them, filled up. -/
def number (f : Form) (negative : Bool) (mark digits rest : Text) : Text :=
  let sign := f.signText negative
  let others := sign.length + mark.length + rest.length
  let filled := f.fill.is '0' && f.alignment == .afterSign
  let digits :=
    if digits.isEmpty then []
    else grouped f.grouping f.groupSize digits (if filled then f.width - others else 0)
  if f.alignment = .afterSign then
    sign ++ mark ++ f.filling (f.width - (others + digits.length)) ++ digits ++ rest
  else f.pad (sign ++ mark ++ digits ++ rest)

/-! ## Texts -/

def text (f : Form) (t : Text) : Except FormError Text :=
  match f.sign with
  | some c => .error (.signOfText (c.is ' '))
  | none =>
    if f.coercesZero then .error .zeroOfText
    else if f.alternate then .error .alternateText
    else if f.alignment = .afterSign then .error .alignedText
    else
      match f.precision with
      | some n => .ok (f.pad (t.take n))
      | none => .ok (f.pad t)

/-! ## Integers -/

/-- The capitals of ASCII letters. -/
def capitals (t : Text) : Text := t.map Pattern.Style.capital

/-- The digits of a number in a base. -/
def digitsIn (base n : Nat) : Text := (Nat.toDigits base n).map CodePoint.ofChar

/-- The code point of an integer as a text in a form. -/
def character (f : Form) (n : Int) : Except FormError Text :=
  if f.sign.isSome then .error .signOfCharacter
  else if f.alternate then .error .alternateCharacter
  else if n < -0x8000000000000000 ∨ 0x8000000000000000 ≤ n then .error .largeCharacter
  else if h : 0 ≤ n ∧ n < 0x110000 then
    .ok (f.number false [] [] [⟨n.toNat, by omega⟩])
  else .error .noCharacter

def integer (f : Form) (n : Int) : Except FormError Text :=
  let whole (mark digits : Text) : Text :=
    f.number (n < 0) (if f.alternate then mark else []) digits []
  if f.precision.isSome then .error .precisionOfInteger
  else if f.coercesZero then .error .zeroOfInteger
  else if f.hasLetter "c" then f.character n
  else if f.hasLetter "b" then .ok (whole "0b" (digitsIn 2 n.natAbs))
  else if f.hasLetter "o" then .ok (whole "0o" (digitsIn 8 n.natAbs))
  else if f.hasLetter "x" then .ok (whole "0x" (digitsIn 16 n.natAbs))
  else if f.hasLetter "X" then .ok (whole "0X" (capitals (digitsIn 16 n.natAbs)))
  else .ok (whole [] (digitsIn 10 n.natAbs))

/-! ## Floating-point numbers -/

/-- The magnitude of a number in the notation of a letter, with a precision. Without a letter the
precision is one of significant digits, and without that all digits are written. -/
def magnitude (letter : CodePoint) (precision : Option Nat) (alternate : Bool) (m : Magnitude) :
    Text :=
  let places := precision.getD 6
  let significant := max places 1
  if letter.is 'f' || letter.is 'F' || letter.is '%' then m.fixed places alternate
  else if letter.is 'e' || letter.is 'E' then m.scientific places alternate
  else if letter.is 'g' || letter.is 'G' || letter.is 'n' then
    m.general significant ⟨significant, false, if alternate then significant else 0, alternate⟩
  else
    match precision with
    | none => m.shortestText { Numeral.full with keepsPoint := alternate }
    | some n =>
      let n := max n 1
      m.general n ⟨n - 1, true, if alternate then n else 0, alternate⟩

/-- A number of a sign and digits that are written, split for filling up. Zero is not negative where
the form says so. -/
def real (f : Form) (x : Binary64) : Text :=
  let letter := f.letterMark
  let x := if letter.is '%' then x.scale 100 else x
  let body :=
    match x with
    | .nan _ => "nan"
    | .infinite _ => "inf"
    | .finite _ m => magnitude letter f.precision f.alternate m
  let negative :=
    match x with
    | .nan _ => false
    | .infinite negative => negative
    | .finite negative _ =>
      negative && !(f.coercesZero && body.all fun c => !c.isDigit || c.is '0' || c.is 'e')
  let body := if f.hasLetter "EFG" then capitals body else body
  let body := if letter.is '%' then body ++ Text.ofString "%" else body
  let digits := body.takeWhile CodePoint.isDigit
  f.number negative [] digits (body.drop digits.length)

/-- A floating-point number in a form. -/
def binary64 (f : Form) (x : Binary64) : Except FormError Text :=
  if f.precision.any fun n => 0x7FFFFFFF < n then .error .largePrecision
  else if f.precision.any fun n => longest < n then .error .memory
  else .ok (f.real x)

/-- A complex number in a form. Without a letter a number of imaginary part only is written without
its real part, and others stand in parentheses. -/
def complex (f : Form) (re im : Binary64) : Except FormError Text :=
  if f.precision.any fun n => 0x7FFFFFFF < n then .error .largePrecision
  else if f.fill.is '0' then .error .zeroesOfComplex
  else if f.alignment = .afterSign then .error .alignedComplex
  else if f.precision.any fun n => longest < n then .error .memory
  else
    let part : Form :=
      { f with
        fill := CodePoint.ofChar ' '
        alignment := .left
        width := 0
        letter := f.letter.or (some (CodePoint.ofChar (if f.precision.isSome then 'g' else 'r'))) }
    let full := { Numeral.full with keepsFraction := false, keepsPoint := f.alternate }
    let written (p : Form) (x : Binary64) : Text :=
      match p.letter.any (CodePoint.is · 'r'), x with
      | true, .finite negative m =>
        let body := m.shortestText full
        let digits := body.takeWhile CodePoint.isDigit
        p.number negative [] digits (body.drop digits.length)
      | _, x => p.real x
    let imaginary (p : Form) : Text := written p im ++ Text.ofString "j"
    let signed := { part with sign := some (CodePoint.ofChar '+') }
    if f.letter.isSome then .ok (f.pad (written part re ++ imaginary signed))
    else if re = .finite false 0 then .ok (f.pad (imaginary part))
    else
      .ok (f.pad (Text.ofString "(" ++ written part re ++ imaginary signed ++ Text.ofString ")"))

/-! ## Values -/

/-- An integer as a floating-point number in a form. -/
def integerAsReal (f : Form) (n : Int) : Except FormError Text :=
  if (Binary64.ofInt n).isFinite then f.binary64 (Binary64.ofInt n) else .error .largeInteger

/-- A form whose width can be written. -/
def writable (f : Form) : Except FormError Form :=
  if longest < f.width then .error .memory else .ok f

/-- An integer, or a truth value, in the form that a text is. -/
def writeInteger (n : Int) (kind : String) (t : Text) : Except FormError Text := do
  let f ← read t kind (some (CodePoint.ofChar 'd')) .right
  if f.hasLetter "bcdoxXn" then (← f.writable).integer n
  else if f.hasLetter "eEfFgG%" then (← f.writable).integerAsReal n
  else throw (.letter f.letterMark kind)

/-- A value in the form that a text is; the empty text asks for the text of the value by itself. -/
def write (m : Member) (t : Text) : Except FormError Text :=
  if t.isEmpty then .ok m.plainText
  else
    match m with
    | .value (.text s) => do
      let f ← read t "str" (some (CodePoint.ofChar 's')) .left
      if f.hasLetter "s" then (← f.writable).text s else throw (.letter f.letterMark "str")
    | .value (.int n) => writeInteger n "int" t
    | .value (.bool b) => writeInteger (if b then 1 else 0) "bool" t
    | .value (.float x) => do
      let f ← read t "float" none .right
      if f.letter.isNone || f.hasLetter "eEfFgGn%" then (← f.writable).binary64 x
      else throw (.letter f.letterMark "float")
    | .value (.other .complex) => do
      let f ← read t "complex" none .right
      if f.letter.isNone || f.hasLetter "eEfFgGn" then (← f.writable).complex 0 1
      else throw (.letter f.letterMark "complex")
    | .value (.dateTime d) =>
      match EncodeError.of? t with
      | some e => .error (.unencodable e)
      | none => .ok (Pattern.fill d.date d.time d.offset t)
    | .value (.date d) =>
      match EncodeError.of? t with
      | some e => .error (.unencodable e)
      | none => .ok (Pattern.fill d TimeOfDay.midnight none t)
    | .clock => .ok m.plainText
    | m => .error (.noForms m.kindName)

end Form

end Registry
