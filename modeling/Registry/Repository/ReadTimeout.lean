import Registry.Binary64.Shortest
import Registry.Refusal
import Registry.Text.Integer
import Registry.Value.Shown

/-!
# The bound on a read

The time that a read of one identity may take, in seconds. On PostgreSQL the server is told the
bound in whole milliseconds; everywhere the time is looked at once the read is done. A bound that
was put in place without being read may be no number: then there is no deadline, and the read is
refused.
-/

namespace Registry

/-- A number of seconds, or a value that is none. -/
inductive ReadTimeout
  | whole (seconds : Int)
  | fractional (seconds : Binary64)
  | other (v : Value)
deriving DecidableEq

namespace ReadTimeout

/-- A minute. -/
def standard : ReadTimeout := fractional 60

def ofValue : Value → ReadTimeout
  | .int n => whole n
  | .bool b => whole (if b then 1 else 0)
  | .float x => fractional x
  | v => other v

/-! ## The bound in milliseconds -/

/-- The integer that a number is cut to. -/
def wholePart (x : Binary64) : Except Refusal Int :=
  match x with
  | .nan _ => .error (Refusal.value "cannot convert float NaN to integer")
  | .infinite _ => .error (Refusal.size "cannot convert float infinity to integer")
  | x => .ok (x.truncate?.getD 0)

/-- The integer that a text is, which `shown` shows where it is none. -/
def integerOf (t shown : Text) : Except Refusal Int :=
  (Text.readInteger .decimal t).mapError fun
    | .form _ _ =>
      ⟨.value, Text.ofString "invalid literal for int() with base 10: " ++ shown.take 200⟩
    | e => ⟨.value, e.message⟩

/-- A thousand times a value that is no number, as an integer: sequences are repeated, and a text
that is repeated may be one. -/
def thousandfold (v : Value) : Except Refusal Int :=
  let noInteger : Except Refusal Int :=
    .error (Refusal.kind ("int() argument must be a string, a bytes-like object or a real number, "
      ++ "not '" ++ v.qualifiedKindName ++ "'"))
  match v with
  | .text t =>
    let t : Text := (List.replicate 1000 t).flatten
    integerOf t t.quoted
  | .bytes b =>
    let b : Octets := (List.replicate 1000 b).flatten
    integerOf (b.map fun x => CodePoint.ofNat x.toNat) (Octets.quoted b)
  | .list _ => noInteger
  | .tuple _ => noInteger
  | .enclosing _ => noInteger
  | .other .complex => noInteger
  | v =>
    .error (Refusal.kind ("unsupported operand type(s) for *: '" ++ v.qualifiedKindName
      ++ "' and 'int'"))

/-- The bound in milliseconds, the fraction of one cut off. -/
def milliseconds : ReadTimeout → Except Refusal Int
  | whole n => .ok (n * 1000)
  | fractional x => wholePart (x.scale 1000)
  | other v => thousandfold v

/-- The statements that tell the server of a dialect the bound. -/
def statements (dialect : Text) (t : ReadTimeout) : Except Refusal (List Text) :=
  if dialect = Text.ofString "postgresql" then
    t.milliseconds.map fun n => [Text.ofString "SET LOCAL statement_timeout = " ++ Text.ofInt n]
  else .ok []

/-! ## The deadline -/

/-- Why there is no deadline. -/
def refusal? : ReadTimeout → Option Refusal
  | whole n =>
    if (Binary64.ofInt n).isFinite then none
    else some (Refusal.size "int too large to convert to float")
  | fractional _ => none
  | other (.other .complex) => none
  | other v =>
    some (Refusal.kind ("unsupported operand type(s) for +: 'float' and '" ++ v.qualifiedKindName
      ++ "'"))

/-- The bound as a floating-point number. -/
def toBinary64 : ReadTimeout → Binary64
  | whole n => Binary64.ofInt n
  | fractional x => x
  | other _ => .nan 0

/-- A number of microseconds is more than the bound; nothing is more than nan, and the imaginary
unit cannot be compared with. -/
def isExceededBy (elapsed : Nat) : ReadTimeout → Except Refusal Bool
  | whole n => .ok (n * 1000000 < elapsed)
  | fractional (.nan _) => .ok false
  | fractional (.infinite negative) => .ok negative
  | fractional (.finite negative m) =>
    .ok ((if negative then -(m.units : Int) else m.units) * 1000000
      < elapsed * (Magnitude.unitsPerOne : Int))
  | other _ =>
    .error (Refusal.kind "'>' not supported between instances of 'float' and 'complex'")

/-- The wording of the failure of a read that took too long. -/
def exceededMessage (t : ReadTimeout) : Text :=
  Text.ofString "read exceeded " ++ t.toBinary64.brief ++ Text.ofString "s deadline"

end ReadTimeout

end Registry
