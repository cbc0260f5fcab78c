import Registry.Binary64.Reader
import Registry.Binary64.Shortest
import Registry.DateTime.Input
import Registry.Text.Blank
import Registry.Text.Encoding.Utf8
import Registry.Text.Quoted
import Registry.Value.Shown

/-!
# Reading input fields

A field takes inputs of several kinds and makes one kind of value of them: a number in a text is a
number, octets that are UTF-8 are a text, and so on. What a field refuses is reported with the place
of the input and the fault.
-/

namespace Registry

inductive FieldFault
  | missing
  | textKind
  | textEncoding
  | intKind
  | intForm
  | intSize
  | intFraction
  | notFinite
  | floatKind
  | floatForm
  | notGreater
  | notListed
  | dateKind
  | dateRange
  | dateForm
  | mappingKind
  | sectionKind
  | unknownName
deriving DecidableEq

def FieldFault.code : FieldFault → String
  | missing => "missing"
  | textKind => "string_type"
  | textEncoding => "string_unicode"
  | intKind => "int_type"
  | intForm => "int_parsing"
  | intSize => "int_parsing_size"
  | intFraction => "int_from_float"
  | notFinite => "finite_number"
  | floatKind => "float_type"
  | floatForm => "float_parsing"
  | notGreater => "greater_than"
  | notListed => "literal_error"
  | dateKind => "datetime_type"
  | dateRange => "datetime_parsing"
  | dateForm => "datetime_from_date_parsing"
  | mappingKind => "dict_type"
  | sectionKind => "model_type"
  | unknownName => "no_such_attribute"

/-- A step on the way to an input: a name, or a number as a key. -/
inductive LocationItem
  | name (t : Text)
  | number (n : Int)
deriving DecidableEq

/-- A refused input: the way to it and the fault. -/
structure FieldError where
  location : List LocationItem
  fault : FieldFault
deriving DecidableEq

namespace FieldError

/-- The error with one more step in front of its way. -/
def under (name : Text) (e : FieldError) : FieldError := ⟨.name name :: e.location, e.fault⟩

end FieldError

namespace Field

/-! ## Texts and listed words -/

/-- A text, or octets in UTF-8. -/
def text : Value → Except FieldFault Text
  | .text t => .ok t
  | .bytes b =>
    match Utf8.decode b with
    | .ok t => .ok t
    | .error _ => .error .textEncoding
  | _ => .error .textKind

def word (words : List Text) : Value → Except FieldFault Text
  | .text t => if t ∈ words then .ok t else .error .notListed
  | _ => .error .notListed

/-- The text of a number in a text or in octets; `form` is the fault of octets that are no text. -/
def numeral (form : FieldFault) (t : Text ⊕ Octets) : Except FieldFault Text :=
  match t with
  | .inl t => if t.any CodePoint.isSurrogate then .error .textEncoding else .ok t
  | .inr b =>
    match Utf8.decode b with
    | .ok t => .ok t
    | .error _ => .error form

/-! ## Integers -/

/-- How many characters of an integer are read, its sign included. -/
def integerLengthLimit : Nat := 4300

/-- The integer that a text is: perhaps a minus sign, then digits, of which a zero is the only one
if it is the first. Too many digits are refused before anything behind them is looked at. -/
def readInteger (t : Text) : Except FieldFault Int :=
  let (negative, body) :=
    match t with
    | c :: rest => if c.is '-' then (true, rest) else (false, t)
    | [] => (false, t)
  let digits := body.takeWhile CodePoint.isDigit
  if digits.isEmpty || (digits.head?.any (CodePoint.is · '0') && 1 < digits.length) then
    .error .intForm
  else if integerLengthLimit < t.length - body.length + digits.length then .error .intSize
  else if digits.length < body.length then .error .intForm
  else
    let n : Int := Text.digitsValue digits
    .ok (if negative then -n else n)

/-- A text without a plus sign at its beginning, which no minus sign may follow. -/
def dropPlus? (t : Text) : Option Text :=
  match t with
  | c :: rest =>
    if !c.is '+' then some t else if rest.head?.any (CodePoint.is · '-') then none else some rest
  | [] => some t

/-- A text from the first mark on that is no zero and no underscore, `last` being the code point
before it: a minus sign or another digit, or a point with what is before it. -/
def fromDigit? (last : CodePoint) : Text → Option Text
  | [] => some [last]
  | c :: rest =>
    if c.is '0' || c.is '_' then fromDigit? c rest
    else if c.isDigit || c.is '-' then some (c :: rest)
    else if c.is '.' then some (last :: c :: rest)
    else none

/-- A text that begins with a digit or a minus sign, without zeros in front. -/
def dropZeros? (t : Text) : Option Text :=
  match t with
  | c :: rest =>
    if c.is '0' then fromDigit? c rest else if c.isDigit || c.is '-' then some t else none
  | [] => none

/-- The text without a point and one or more zeros at its end. -/
def dropZeroFraction (t : Text) : Text :=
  let whole := t.takeWhile fun c => !c.is '.'
  let zeros := (t.dropWhile fun c => !c.is '.').drop 1
  if !zeros.isEmpty && zeros.all (CodePoint.is · '0') then whole else t

/-- The text without underscores, if they stand one by one inside of it. -/
def dropUnderscores (t : Text) : Text :=
  if t.head?.any (CodePoint.is · '_') || t.getLast?.any (CodePoint.is · '_')
      || Text.hasInfix (Text.ofString "__") t then t
  else t.filter fun c => !c.is '_'

/-- The integer that a text is. One that is none as it stands is read without white space, a plus
sign, zeros in front, a fraction of zeros and underscores. -/
def intOfText (t : Text) : Except FieldFault Int :=
  match readInteger t with
  | .error .intForm =>
    match (dropPlus? (t.trim CodePoint.isWhiteSpace)).bind dropZeros? with
    | some t => readInteger (dropUnderscores (dropZeroFraction t))
    | none => .error .intForm
  | r => r

/-- The integer that a floating-point number is; its absolute value must be below 2⁶³. -/
def intOfBinary64 (x : Binary64) : Except FieldFault Int :=
  if !x.isFinite then .error .notFinite
  else
    match x.toInt? with
    | some n => if n.natAbs < 0x8000000000000000 then .ok n else .error .intSize
    | none => .error .intFraction

/-- An integer, or what stands for one. -/
def int : Value → Except FieldFault Int
  | .int n => .ok n
  | .bool b => .ok (if b then 1 else 0)
  | .float x => intOfBinary64 x
  | .text t => do intOfText (← numeral .intForm (.inl t))
  | .bytes b => do intOfText (← numeral .intForm (.inr b))
  | _ => .error .intKind

/-! ## Floating-point numbers -/

/-- Some underscore stands at an end of the text or beside another. -/
def hasLooseUnderscore (t : Text) : Bool :=
  t.head?.any (CodePoint.is · '_') || t.getLast?.any (CodePoint.is · '_')
    || Text.hasInfix (Text.ofString "__") t

/-- The number that a text is: with white space around it, or with underscores in it. -/
def floatOfText (t : Text) : Except FieldFault Binary64 :=
  match Binary64.read? (t.trim CodePoint.isWhiteSpace) with
  | some x => .ok x
  | none =>
    if hasLooseUnderscore t then .error .floatForm
    else
      match Binary64.read? (t.filter fun c => !c.is '_') with
      | some x => .ok x
      | none => .error .floatForm

/-- A floating-point number, or what stands for one. -/
def float : Value → Except FieldFault Binary64
  | .float x => .ok x
  | .int n => if (Binary64.ofInt n).isFinite then .ok (Binary64.ofInt n) else .error .floatKind
  | .bool b => .ok (Binary64.ofInt (if b then 1 else 0))
  | .text t => do floatOfText (← numeral .floatForm (.inl t))
  | .bytes b => do floatOfText (← numeral .floatForm (.inr b))
  | _ => .error .floatKind

/-- A floating-point number greater than zero. -/
def positiveFloat (v : Value) : Except FieldFault Binary64 := do
  let x ← float v
  if x.isPositive then .ok x else .error .notGreater

/-! ## Dates -/

def dateFault : DateInputError → FieldFault
  | .form => .dateForm
  | .range => .dateRange

/-- A date with a time, or what stands for one. -/
def dateTime : Value → Except FieldFault DateTime
  | .dateTime d => .ok d
  | .date d => .ok ⟨d, TimeOfDay.midnight, none⟩
  | .int n =>
    if (Binary64.ofInt n).isFinite then (DateInput.ofInt .range n).mapError dateFault
    else .error .dateKind
  | .float x => (DateInput.ofBinary64 .range x).mapError dateFault
  | .text t =>
    if t.any CodePoint.isSurrogate then .error .textEncoding
    else (DateInput.ofText t).mapError dateFault
  | .bytes b => (DateInput.ofText (Utf8.decodeLossy b)).mapError dateFault
  | _ => .error .dateKind

/-! ## Mappings -/

/-- The step to the entry of a key. -/
def keyItem : Value → LocationItem
  | .text t => .name t
  | .bool b => .number (if b then 1 else 0)
  | .int n =>
    if -0x8000000000000000 ≤ n ∧ n < 0x8000000000000000 then .number n else .name (Text.ofInt n)
  | v => .name v.shown

/-- Puts a value under a name: over the value that is there, or as the last entry. -/
def putNamed (entries : List (Text × Value)) (name : Text) (v : Value) : List (Text × Value) :=
  match entries with
  | [] => [(name, v)]
  | (n, w) :: rest => if n = name then (n, v) :: rest else (n, w) :: putNamed rest name v

/-- Reads the keys of a mapping as texts, with the errors of all that are none. -/
def readKeys : List (Value × Value) → List (Text × Value) → List FieldError →
    Except (List FieldError) (List (Text × Value))
  | [], done, [] => .ok done
  | [], _, errors => .error errors.reverse
  | (k, v) :: rest, done, errors =>
    match text k with
    | .ok name => readKeys rest (putNamed done name v) errors
    | .error fault =>
      readKeys rest done (⟨[keyItem k, .name "[key]"], fault⟩ :: errors)

/-- A mapping whose keys are texts. -/
def mapping : Value → Except (List FieldError) (List (Text × Value))
  | .dict entries => readKeys entries [] []
  | _ => .error [⟨[], .mappingKind⟩]

end Field

end Registry
