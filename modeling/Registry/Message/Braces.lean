import Registry.Message.Form

/-!
# The brace notation

A message whose places for arguments are fields in braces: the number or the name of an argument,
perhaps members and items of it, then a conversion after an exclamation mark and a form after a
colon. A form may have fields itself. Fields without a number take the arguments in order.
`Braces.pieces` cuts a message into its pieces, `Braces.write` puts arguments into them.
-/

namespace Registry

/-- Why arguments do not fit a message in the brace notation. -/
inductive BraceError
  | singleBrace (c : CodePoint)
  | openBrace
  | braceInField
  | openForm
  | noConversion
  | afterConversion
  | conversion (c : CodePoint)
  | manyDigits
  | emptyMember
  | openItem
  | afterItem
  | mixedNumbering (manualFirst : Bool)
  | nesting
  | noPositions
  | noArgument (n : Nat)
  | noName (name : Text)
  | member (r : Refusal)
  | form (e : FormError)
deriving DecidableEq

namespace BraceError

def sort : BraceError → ErrorSort
  | noArgument _ => .index
  | noName _ => .key
  | member r => r.sort
  | form e => e.sort
  | _ => .value

/-- The wording of an error. -/
def message : BraceError → Text
  | singleBrace c =>
    Text.ofString "Single '" ++ [c] ++ Text.ofString "' encountered in format string"
  | openBrace => "expected '\x7d' before end of string"
  | braceInField => "unexpected '\x7b' in field name"
  | openForm => "unmatched '\x7b' in format spec"
  | noConversion => "end of string while looking for conversion specifier"
  | afterConversion => "expected ':' after conversion specifier"
  | conversion c =>
    Text.ofString "Unknown conversion specifier "
      ++ (if 0x20 < c.val ∧ c.val < 0x7F then [c]
          else Text.ofString "\\x" ++ (Nat.toDigits 16 c.val).map CodePoint.ofChar)
  | manyDigits => "Too many decimal digits in format string"
  | emptyMember => "Empty attribute in format string"
  | openItem => "Missing ']' in format string"
  | afterItem => "Only '.' or '[' may follow ']' in format field specifier"
  | mixedNumbering true =>
    "cannot switch from manual field specification to automatic field numbering"
  | mixedNumbering false =>
    "cannot switch from automatic field numbering to manual field specification"
  | nesting => "Max string recursion exceeded"
  | noPositions => "Format string contains positional fields"
  | noArgument n =>
    Text.ofString "Replacement index " ++ Text.ofNat n
      ++ Text.ofString " out of range for positional args tuple"
  | noName name => name.quoted
  | member r => r.message
  | form e => e.message

end BraceError

namespace Braces

/-! ## Pieces -/

/-- A field: its name, its conversion and its form, which may have fields itself. -/
structure Field where
  name : Text
  conversion : Option CodePoint
  form : Text
  nested : Bool
deriving DecidableEq

/-- A piece of a message; a fault ends it. -/
inductive Piece
  | literal (t : Text)
  | field (f : Field)
  | fault (e : BraceError)

/-- The name of a field, the mark that ends it and what follows that. Inside of brackets no mark
ends it. -/
def readName (inBrackets : Bool) : Text → Except BraceError (Text × Option CodePoint × Text)
  | [] => .ok ([], none, [])
  | c :: rest =>
    let more (inBrackets : Bool) := (readName inBrackets rest).map fun (n, r) => (c :: n, r)
    if inBrackets then more (!c.is ']')
    else if c.is '\x7b' then .error .braceInField
    else if c.is '\x7d' || c.is ':' || c.is '!' then .ok ([], some c, rest)
    else more (c.is '[')

/-- The form of a field up to the brace that ends it, in which braces may be nested, and what
follows it. -/
def readForm : (depth : Nat) → Text → Option (Text × Text)
  | _, [] => none
  | depth, c :: rest =>
    if c.is '\x7d' then
      match depth with
      | 0 => some ([], rest)
      | depth + 1 => (readForm depth rest).map fun (form, rest) => (c :: form, rest)
    else
      (readForm (if c.is '\x7b' then depth + 1 else depth) rest).map fun (form, rest) =>
        (c :: form, rest)

/-- The conversion and what follows it up to the form of a field; nothing where the field ends
without a form. -/
def readConversion (t : Text) : Except BraceError (CodePoint × Option Text × Text) :=
  match t with
  | [] => .error .noConversion
  | [c] => .ok (c, some [], [])
  | c :: mark :: rest =>
    if mark.is '\x7d' then .ok (c, none, rest)
    else if mark.is ':' then .ok (c, some rest, [])
    else .error .afterConversion

/-- A field after its brace, and what follows it. -/
def readField (t : Text) : Except BraceError (Field × Text) := do
  let (name, mark, rest) ← readName false t
  let withForm (conversion : Option CodePoint) (t : Text) : Except BraceError (Field × Text) :=
    match readForm 0 t with
    | some (form, rest) => .ok (⟨name, conversion, form, form.any (CodePoint.is · '\x7b')⟩, rest)
    | none => .error .openForm
  match mark with
  | none => throw .openBrace
  | some c =>
    if c.is '\x7d' then return (⟨name, none, [], false⟩, rest)
    else if c.is ':' then withForm none rest
    else
      match ← readConversion rest with
      | (c, none, rest) => return (⟨name, some c, [], false⟩, rest)
      | (c, some t, _) => withForm (some c) t

/-- A code point that is a brace. -/
def isBrace (c : CodePoint) : Bool := c.is '\x7b' || c.is '\x7d'

/-- The pieces of a text, of which there are at most `fuel`. -/
def piecesFrom : (fuel : Nat) → Text → List Piece
  | 0, _ => []
  | fuel + 1, t =>
    let plain := t.takeWhile fun c => !isBrace c
    match t.drop plain.length with
    | [] => if plain.isEmpty then [] else [.literal plain]
    | [c] => [.fault (.singleBrace c)]
    | c :: d :: rest =>
      if c = d then .literal (plain ++ [c]) :: piecesFrom fuel rest
      else if c.is '\x7d' then [.fault (.singleBrace c)]
      else
        match readField (d :: rest) with
        | .error e => [.literal plain, .fault e]
        | .ok (f, rest) => .literal plain :: .field f :: piecesFrom fuel rest

def pieces (t : Text) : List Piece := piecesFrom (t.length + 1) t

/-! ## Names of fields -/

/-- A step from an argument: to a member, or to an item. -/
inductive Step
  | member (name : Text)
  | item (key : Nat ⊕ Text)

/-- The number that a name is, if all of it are digits, of any script. -/
def numberOf (t : Text) : Except BraceError (Option Nat) :=
  let digits := (t.map CodePoint.decimalValue?).takeWhile Option.isSome
  let n := digits.foldl (fun n d => 10 * n + d.getD 0) 0
  if Form.largestNumber < n then .error .manyDigits
  else .ok (if t.isEmpty ∨ digits.length < t.length then none else some n)

def beginsStep (c : CodePoint) : Bool := c.is '.' || c.is '['

/-- The steps of a text, of which there are at most `fuel`, and the fault that ends them. -/
def stepsFrom : (fuel : Nat) → Text → List (Except BraceError Step)
  | 0, _ => []
  | _, [] => []
  | fuel + 1, c :: rest =>
    if c.is '.' then
      let name := rest.takeWhile fun c => !beginsStep c
      if name.isEmpty then [.error .emptyMember]
      else .ok (.member name) :: stepsFrom fuel (rest.drop name.length)
    else if c.is '[' then
      let key := rest.takeWhile fun c => !c.is ']'
      match rest.drop key.length, numberOf key with
      | [], _ => [.error .openItem]
      | _, .error e => [.error e]
      | _ :: more, .ok n =>
        if key.isEmpty then [.error .emptyMember]
        else
          .ok (.item (match n with
            | some n => .inl n
            | none => .inr key)) :: stepsFrom fuel more
    else [.error .afterItem]

/-- What steps lead to from an argument. -/
def follow (m : Member) : List (Except BraceError Step) → Except BraceError Member
  | [] => .ok m
  | .error e :: _ => .error e
  | .ok (.member name) :: rest => do follow (← (m.get name).mapError .member) rest
  | .ok (.item key) :: rest => do follow (← (m.item key).mapError .member) rest

/-! ## Arguments -/

/-- How fields are numbered: undecided, each with the next number, or each with its own. -/
inductive Numbering
  | undecided
  | automatic (next : Nat)
  | manual
deriving DecidableEq

/-- Arguments: a sequence if there are any by number, and named ones. -/
structure Arguments where
  sequence : Option (List Member)
  named : List (Text × Member)

def Arguments.at (a : Arguments) (n : Nat) : Except BraceError Member :=
  match a.sequence with
  | none => .error .noPositions
  | some ms =>
    match ms[n]? with
    | some m => .ok m
    | none => .error (.noArgument n)

/-- The argument of the beginning of a field's name, and the numbering after it. -/
def argument (a : Arguments) (first : Text) (n : Numbering) :
    Except BraceError (Member × Numbering) := do
  let number ← numberOf first
  if first.isEmpty then
    match n with
    | .undecided => return (← a.at 0, .automatic 1)
    | .automatic i => return (← a.at i, .automatic (i + 1))
    | .manual => throw (.mixedNumbering true)
  else
    match number, n with
    | some _, .automatic _ => throw (.mixedNumbering false)
    | some i, _ => return (← a.at i, .manual)
    | none, n =>
      match a.named.find? fun (name, _) => name == first with
      | some (_, m) => return (m, n)
      | none => throw (.noName first)

/-- What a field's name leads to, and the numbering after it. -/
def resolve (a : Arguments) (name : Text) (n : Numbering) :
    Except BraceError (Member × Numbering) := do
  let first := name.takeWhile fun c => !beginsStep c
  let (m, n) ← argument a first n
  return (← follow m (stepsFrom name.length (name.drop first.length)), n)

/-- What a conversion makes of an argument. -/
def converted (m : Member) : Option CodePoint → Except BraceError Member
  | none => .ok m
  | some c =>
    if c.val = 0 then .ok m
    else if c.is 's' then .ok (.value (.text m.plainText))
    else if c.is 'r' then .ok (.value (.text m.shown))
    else if c.is 'a' then .ok (.value (.text m.shown.asciiOnly))
    else .error (.conversion c)

/-! ## Writing -/

/-- Pieces with their arguments, and the numbering after them. Forms may have fields as far as the
depth goes. -/
def writePieces (a : Arguments) :
    (depth : Nat) → List Piece → Numbering → Except BraceError (Text × Numbering)
  | _, [], n => .ok ([], n)
  | _, .fault e :: _, _ => .error e
  | depth, .literal t :: rest, n => do
    let (more, n) ← writePieces a depth rest n
    return (t ++ more, n)
  | 0, .field f :: rest, n => do
    let (m, n) ← resolve a f.name n
    let m ← converted m f.conversion
    if f.nested then throw .nesting
    let t ← (Form.write m f.form).mapError .form
    let (more, n) ← writePieces a 0 rest n
    return (t ++ more, n)
  | depth + 1, .field f :: rest, n => do
    let (m, n) ← resolve a f.name n
    let m ← converted m f.conversion
    let (form, n) ← if f.nested then writePieces a depth (pieces f.form) n else .ok (f.form, n)
    let t ← (Form.write m form).mapError .form
    let (more, n) ← writePieces a (depth + 1) rest n
    return (t ++ more, n)

def writeWith (t : Text) (a : Arguments) : Except BraceError Text :=
  (writePieces a 1 (pieces t) .undecided).map (·.1)

/-- A message with arguments in a sequence. -/
def write (t : Text) (arguments : List Value) : Except BraceError Text :=
  writeWith t ⟨some (arguments.map .value), []⟩

end Braces

end Registry
