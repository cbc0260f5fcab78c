import Registry.Text.Base64
import Registry.Text.Lowercase
import Registry.Yaml.Fault
import Registry.Yaml.Kind
import Registry.Binary64.Reader
import Registry.Value

/-!
# Scalars

The value of a scalar of a kind. In numbers underscores count for nothing, and parts between colons
are the digits of a number in base sixty. A scalar whose kind was told by its form always has a
value; one of a tag may not have the form that the tag promises.
-/

namespace Registry.Yaml.Scalar

/-! ## Numbers -/

/-- A text without underscores. -/
def withoutLines (t : Text) : Text := t.filter fun c => !c.is '_'

/-- Whether the sign of a text is a minus, and the text without its sign. -/
def splitSign (t : Text) : Bool × Text := (t.head?.any (CodePoint.is · '-'), Kind.unsigned t)

/-- The parts between colons. -/
def sixtieths (t : Text) : List Text := Text.splitOn (CodePoint.ofChar ':') t

/-- The integer of a base that a text is. -/
def readInteger (base : Base) (t : Text) : Except YamlFault Int :=
  (Text.readInteger base t).mapError .integer

/-- An integer without its sign: `0b` and `0x` are marks of bases, another zero in front is the mark
of base eight. -/
def natural (t : Text) : Except YamlFault Int :=
  match t with
  | [] => .error .emptyNumber
  | first :: rest =>
    if t = Text.ofString "0" then .ok 0
    else if first.is '0' then
      if rest.head?.any (CodePoint.is · 'b') then readInteger .binary (rest.drop 1)
      else if rest.head?.any (CodePoint.is · 'x') then readInteger .hexadecimal (rest.drop 1)
      else readInteger .octal t
    else if t.any (CodePoint.is · ':') then
      ((sixtieths t).mapM (readInteger .decimal)).map fun ns => ns.foldl (fun n d => 60 * n + d) 0
    else readInteger .decimal t

def int (t : Text) : Except YamlFault Int :=
  let (negative, bare) := splitSign (withoutLines t)
  (natural bare).map fun n => if negative then -n else n

/-- A decimal digit of any script as one of ASCII. -/
def asciiDigit (c : CodePoint) : CodePoint :=
  match c.decimalValue? with
  | some n => CodePoint.ofHexDigit n
  | none => c

/-- The floating-point number that a text is, white space around it aside. -/
def readFloat (t : Text) : Except YamlFault Binary64 :=
  match Binary64.read? ((t.trim CodePoint.isWhiteSpace).map asciiDigit) with
  | some x => .ok x
  | none => .error (.float t)

/-- The sum of floating-point digits in base sixty, the last digit first, each times its power of
the base; every power, product and sum is rounded. -/
def sumSixtieths (sum : Binary64) (power : Nat) : List Binary64 → Except YamlFault Binary64
  | [] => .ok sum
  | d :: rest =>
    match (Binary64.ofInt power).toInt? with
    | none => .error .largeFloat
    | some k => sumSixtieths (sum.add (d.scale k.toNat)) (60 * power) rest

/-- A floating-point number without its sign. The word for a nan is one object wherever it stands,
any other nan is the given one. -/
def unsignedFloat (object : Nat) (t : Text) : Except YamlFault Binary64 :=
  if t = Text.ofString ".inf" then .ok (.infinite false)
  else if t = Text.ofString ".nan" then .ok (.nan 0)
  else if t.any (CodePoint.is · ':') then do
    let digits ← (sixtieths t).mapM readFloat
    return (← sumSixtieths 0 1 digits.reverse).asObject object
  else (readFloat t).map (Binary64.asObject object)

def float (object : Nat) (t : Text) : Except YamlFault Binary64 :=
  let lower := (withoutLines t).lower
  if lower.isEmpty then .error .emptyNumber
  else
    let (negative, bare) := splitSign lower
    (unsignedFloat object bare).map fun x => if negative then x.negate else x

/-! ## Other scalars -/

def trueWords : List String := ["yes", "true", "on"]

def falseWords : List String := ["no", "false", "off"]

/-- A truth value, in letters of any case. -/
def truth (t : Text) : Except YamlFault Bool :=
  let lower := t.lower
  if Kind.isWord trueWords lower then .ok true
  else if Kind.isWord falseWords lower then .ok false
  else .error (.truth lower)

/-- Octets in base 64. -/
def binary (t : Text) : Except YamlFault Octets :=
  if t.any fun c => 0x80 ≤ c.val then .error .malformed
  else
    match Base64.decode? t with
    | some b => .ok b
    | none => .error .malformed

/-- A timestamp: a date, or a date with a time of day. An offset out of range is reported before
other fields. -/
def timestamp (t : Text) : Except YamlFault Value :=
  match Timestamp.ofText? (Kind.withoutFinalBreak t) with
  | none => .error .timestamp
  | some s =>
    match s.time with
    | none => ((Iso.checkDate s.year s.month s.day).map Value.date).mapError .date
    | some time =>
      Except.mapError .date do
        let offset ← Iso.checkOffset time.offset
        let date ← Iso.checkDate s.year s.month s.day
        let clock ← Iso.checkTime ⟨[time.hour, time.minute, time.second], time.microsecond, true⟩
        return .dateTime ⟨date, clock, offset⟩

/-- The value of a scalar, which is an object of its own. A kind of containers, or none with a
meaning, has no scalars. -/
def value (object : Nat) (kind : Kind) (t : Text) : Except YamlFault Value :=
  match kind with
  | .null => .ok .null
  | .truth => (truth t).map .bool
  | .int => (int t).map .int
  | .float => (float object t).map .float
  | .binary => (binary t).map .bytes
  | .timestamp => timestamp t
  | .text => .ok (.text t)
  | _ => .error .malformed

end Registry.Yaml.Scalar
