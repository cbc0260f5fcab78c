import Registry.Message.Form

/-!
# The percent notation

A message whose places for arguments begin with a percent sign: perhaps a key in parentheses, flags,
a width and a precision, then a letter for the notation. Two percent signs next to each other stand
for one. `Percent.pieces` cuts a message into its pieces, `Percent.write` puts arguments into them.
The arguments are taken in order and all of them have to be; or they are one mapping, of which keys
name the entries.
-/

namespace Registry

/-- Why arguments do not fit a message in the percent notation. -/
inductive PercentError
  | tooFew
  | tooMany
  | noMapping
  | unfinished
  | unfinishedKey
  | noEntry (key : Text)
  | starKind
  | largeStar (precision : Bool)
  | largeWidth
  | largePrecision
  | letter (c : CodePoint) (position : Nat)
  | integerKind (c : CodePoint) (kind : String)
  | numberKind (c : CodePoint) (kind : String)
  | realKind (kind : String)
  | characterKind
  | noCharacter
  | notANumber
  | infinite
  | largeInteger
  | memory
deriving DecidableEq

namespace PercentError

def sort : PercentError → ErrorSort
  | unfinished => .value
  | unfinishedKey => .value
  | noEntry _ => .key
  | largeStar _ => .overflow
  | largeWidth => .value
  | largePrecision => .value
  | letter _ _ => .value
  | noCharacter => .overflow
  | notANumber => .value
  | infinite => .overflow
  | largeInteger => .overflow
  | memory => .memory
  | _ => .type

/-- The wording of an error. -/
def message : PercentError → Text
  | tooFew => "not enough arguments for format string"
  | tooMany => "not all arguments converted during string formatting"
  | noMapping => "format requires a mapping"
  | unfinished => "incomplete format"
  | unfinishedKey => "incomplete format key"
  | noEntry key => key.quoted
  | starKind => "* wants int"
  | largeStar false => "Python int too large to convert to C ssize_t"
  | largeStar true => "Python int too large to convert to C int"
  | largeWidth => "width too big"
  | largePrecision => "precision too big"
  | letter c position =>
    Text.ofString "unsupported format character '"
      ++ [if 0x1F ≤ c.val ∧ c.val ≤ 0x7E then c else CodePoint.ofChar '?']
      ++ Text.ofString "' (0x" ++ (Nat.toDigits 16 c.val).map CodePoint.ofChar
      ++ Text.ofString ") at index " ++ Text.ofNat position
  | integerKind c kind =>
    Text.ofString "%" ++ [c]
      ++ Text.ofString (" format: an integer is required, not " ++ kind)
  | numberKind c kind =>
    Text.ofString "%" ++ [c]
      ++ Text.ofString (" format: a real number is required, not " ++ kind)
  | realKind kind => Text.ofString ("must be real number, not " ++ kind)
  | characterKind => "%c requires int or char"
  | noCharacter => "%c arg not in range(0x110000)"
  | notANumber => "cannot convert float NaN to integer"
  | infinite => "cannot convert float infinity to integer"
  | largeInteger => FormError.largeInteger.message
  | memory => []

end PercentError

namespace Percent

/-! ## Pieces -/

/-- A width or a precision: none, a number, or the next argument. -/
inductive Extent
  | absent
  | given (n : Nat)
  | star
deriving DecidableEq

structure Flags where
  left : Bool
  plus : Bool
  blank : Bool
  alternate : Bool
  zeros : Bool
deriving DecidableEq

/-- A key of a directive: in parentheses, or without an end. -/
inductive Key
  | absent
  | named (key : Text)
  | unfinished
deriving DecidableEq

/-- A place for an argument. The letter is missing where the message ends before it. -/
structure Directive where
  key : Key
  flags : Flags
  width : Extent
  precision : Extent
  letter : Option (CodePoint × Nat)
deriving DecidableEq

inductive Piece
  | literal (t : Text)
  | directive (d : Directive)

/-- The key at the beginning of a text, in which parentheses may be nested, with what follows its
end. -/
def readKey : (depth : Nat) → Text → Option (Text × Text)
  | _, [] => none
  | depth, c :: rest =>
    if c.is ')' then
      match depth with
      | 0 => some ([], rest)
      | depth + 1 => (readKey depth rest).map fun (key, rest) => (c :: key, rest)
    else
      (readKey (if c.is '(' then depth + 1 else depth) rest).map fun (key, rest) => (c :: key, rest)

/-- A code point that is a flag. -/
def isFlag (c : CodePoint) : Bool := (Text.ofString "-+ #0").contains c

/-- The flags of a run of them. -/
def flagsOf (t : Text) : Flags :=
  let has (c : Char) : Bool := t.contains (CodePoint.ofChar c)
  ⟨has '-', has '+', has ' ', has '#', has '0'⟩

/-- A width or a precision at the beginning of a text, and what follows it. -/
def readExtent (t : Text) : Extent × Text :=
  match t with
  | [] => (.absent, [])
  | c :: rest =>
    if c.is '*' then (.star, rest)
    else
      let digits := t.takeWhile CodePoint.isDigit
      if digits.isEmpty then (.absent, t)
      else (.given (Text.digitsValue digits), t.drop digits.length)

/-- A precision at the beginning of a text, after a point, and what follows it. Nothing after the
point is a precision of zero. -/
def readPrecision (t : Text) : Extent × Text :=
  match t with
  | c :: rest =>
    if c.is '.' then
      match readExtent rest with
      | (.absent, rest) => (.given 0, rest)
      | r => r
    else (.absent, t)
  | [] => (.absent, [])

/-- What follows a mark for the size of a number, which counts for nothing. -/
def dropSize (t : Text) : Text :=
  match t with
  | c :: rest => if (Text.ofString "hlL").contains c then rest else t
  | [] => []

/-- The directive after a percent sign, and what follows it; `total` is the length of the whole
message. -/
def readDirective (total : Nat) (t : Text) : Directive × Text :=
  let (key, rest) :=
    if t.head?.any (CodePoint.is · '(') then
      match readKey 0 (t.drop 1) with
      | some (key, rest) => (Key.named key, rest)
      | none => (Key.unfinished, [])
    else (Key.absent, t)
  let flags := rest.takeWhile isFlag
  let (width, rest) := readExtent (rest.drop flags.length)
  let (precision, rest) := readPrecision rest
  let rest := dropSize rest
  match rest with
  | [] => (⟨key, flagsOf flags, width, precision, none⟩, [])
  | c :: more =>
    (⟨key, flagsOf flags, width, precision, some (c, total - rest.length)⟩, more)

/-- The pieces of a text, of which there are at most `fuel`. -/
def piecesFrom (total : Nat) : (fuel : Nat) → Text → List Piece
  | 0, _ => []
  | fuel + 1, t =>
    let plain := t.takeWhile fun c => !c.is '%'
    match t.drop plain.length with
    | [] => if plain.isEmpty then [] else [.literal plain]
    | mark :: rest =>
      if rest.head?.any (CodePoint.is · '%') then
        .literal (plain ++ [mark]) :: piecesFrom total fuel (rest.drop 1)
      else
        let (d, rest) := readDirective total rest
        .literal plain :: .directive d :: piecesFrom total fuel rest

def pieces (t : Text) : List Piece := piecesFrom t.length (t.length + 1) t

/-! ## Arguments -/

/-- The arguments that are left: a sequence, or one value that is there or has been taken. -/
inductive Remaining
  | sequence (vs : List Value)
  | single (v : Value)
  | taken
deriving DecidableEq

/-- The next argument, and those after it. -/
def Remaining.next : Remaining → Except PercentError (Value × Remaining)
  | sequence (v :: vs) => .ok (v, sequence vs)
  | single v => .ok (v, taken)
  | _ => .error .tooFew

def largestWidth : Nat := 0x7FFFFFFFFFFFFFFF

def largestPrecision : Nat := 0x7FFFFFFF

/-- The integer that an argument in the place of a width or a precision is. -/
def starred (precision : Bool) (v : Value) : Except PercentError Int :=
  let largest : Int := if precision then largestPrecision else largestWidth
  let within (n : Int) : Except PercentError Int :=
    if -largest - 1 ≤ n ∧ n ≤ largest then .ok n else .error (.largeStar precision)
  match v with
  | .int n => within n
  | .bool b => within (if b then 1 else 0)
  | _ => .error .starKind

/-- The width of a directive; a negative one aligns to the left. -/
def widthOf (d : Directive) (r : Remaining) : Except PercentError (Nat × Bool × Remaining) :=
  match d.width with
  | .absent => .ok (0, false, r)
  | .given n => if largestWidth < n then .error .largeWidth else .ok (n, false, r)
  | .star => do
    let (v, r) ← r.next
    let n ← starred false v
    return (n.natAbs, n < 0, r)

/-- The precision of a directive; a negative one is zero. -/
def precisionOf (d : Directive) (r : Remaining) : Except PercentError (Option Nat × Remaining) :=
  match d.precision with
  | .absent => .ok (none, r)
  | .given n => if largestPrecision < n then .error .largePrecision else .ok (some n, r)
  | .star => do
    let (v, r) ← r.next
    let n ← starred true v
    return (some n.toNat, r)

/-! ## Writing -/

/-- What a directive writes: the sign and the mark of the base of a number, and the rest. -/
structure Written where
  isNumber : Bool
  negative : Bool
  mark : Text
  body : Text

/-- The integer that a value is taken for by a letter. -/
def integerOf (letter : CodePoint) (v : Value) : Except PercentError Int :=
  let based := (Text.ofString "oxX").contains letter
  match v with
  | .int n => .ok n
  | .bool b => .ok (if b then 1 else 0)
  | .float x =>
    if based then .error (.integerKind letter v.qualifiedKindName)
    else
      match x with
      | .nan _ => .error .notANumber
      | .infinite _ => .error .infinite
      | x => .ok (x.truncate?.getD 0)
  | v =>
    if based then .error (.integerKind letter v.qualifiedKindName)
    else .error (.numberKind letter v.qualifiedKindName)

/-- The number that a value is taken for. -/
def realOf (v : Value) : Except PercentError Binary64 :=
  let ofInt (n : Int) : Except PercentError Binary64 :=
    if (Binary64.ofInt n).isFinite then .ok (Binary64.ofInt n) else .error .largeInteger
  match v with
  | .float x => .ok x
  | .int n => ofInt n
  | .bool b => ofInt (if b then 1 else 0)
  | v => .error (.realKind v.qualifiedKindName)

/-- The code point that a value is taken for. -/
def characterOf (v : Value) : Except PercentError CodePoint :=
  let ofInt : Int → Except PercentError CodePoint
    | .ofNat n => if h : n < 0x110000 then .ok ⟨n, h⟩ else .error .noCharacter
    | .negSucc _ => .error .noCharacter
  match v with
  | .text [c] => .ok c
  | .int n => ofInt n
  | .bool b => ofInt (if b then 1 else 0)
  | _ => .error .characterKind

/-- An integer in the notation of a letter. -/
def integer (letter : CodePoint) (alternate : Bool) (precision : Option Nat) (n : Int) : Written :=
  let (base, mark) :=
    if letter.is 'o' then (8, "0o")
    else if letter.is 'x' then (16, "0x")
    else if letter.is 'X' then (16, "0X")
    else (10, "")
  let digits := Text.zeroPad (precision.getD 0) (Form.digitsIn base n.natAbs)
  ⟨true, n < 0, if alternate then mark else [],
    if letter.is 'X' then Form.capitals digits else digits⟩

/-- A number in the notation of a letter. -/
def real (letter : CodePoint) (alternate : Bool) (precision : Option Nat) (x : Binary64) :
    Written :=
  let lower := letter.asciiLower
  let body :=
    match x with
    | .nan _ => Text.ofString "nan"
    | .infinite _ => Text.ofString "inf"
    | .finite _ m => Form.magnitude lower precision alternate m
  let negative :=
    match x with
    | .nan _ => false
    | .infinite negative => negative
    | .finite negative _ => negative
  ⟨true, negative, [], if lower = letter then body else Form.capitals body⟩

/-- What a letter writes of a value. -/
def convert (letter : CodePoint) (position : Nat) (alternate : Bool) (precision : Option Nat)
    (v : Value) : Except PercentError Written :=
  let word (t : Text) : Written :=
    ⟨false, false, [], match precision with
      | some n => t.take n
      | none => t⟩
  if letter.is 's' then .ok (word v.plainText)
  else if letter.is 'r' then .ok (word v.shown)
  else if letter.is 'a' then .ok (word v.shown.asciiOnly)
  else if letter.is 'c' then (characterOf v).map fun c => ⟨false, false, [], [c]⟩
  else if (Text.ofString "diuoxX").contains letter then
    (integerOf letter v).map (integer letter alternate precision)
  else if (Text.ofString "eEfFgG").contains letter then
    (realOf v).map (real letter alternate precision)
  else .error (.letter letter position)

/-- What is written, filled up to a width: on the right, or on the left, a number with zeros behind
its sign where the flags say so. -/
def fill (flags : Flags) (left : Bool) (width : Nat) (w : Written) : Text :=
  let sign : Text :=
    if !w.isNumber then []
    else if w.negative then "-"
    else if flags.plus then "+"
    else if flags.blank then " "
    else []
  let missing := width - (sign.length + w.mark.length + w.body.length)
  if left then sign ++ w.mark ++ w.body ++ List.replicate missing (CodePoint.ofChar ' ')
  else if flags.zeros && w.isNumber then sign ++ w.mark ++ Text.zeros missing ++ w.body
  else List.replicate missing (CodePoint.ofChar ' ') ++ sign ++ w.mark ++ w.body

/-- The arguments for a directive: the entry of its key, or those that are left. -/
def argumentsFor (key : Key) (entries : Option (List (Value × Value))) (r : Remaining) :
    Except PercentError Remaining :=
  match key, entries with
  | .absent, _ => .ok r
  | _, none => .error .noMapping
  | .unfinished, some _ => .error .unfinishedKey
  | .named key, some entries =>
    match Value.lookup? (.text key) entries with
    | some v => .ok (.single v)
    | none => .error (.noEntry key)

/-- A directive with its arguments, and the arguments after it. -/
def writeDirective (entries : Option (List (Value × Value))) (d : Directive) (r : Remaining) :
    Except PercentError (Text × Remaining) := do
  let r ← argumentsFor d.key entries r
  let (width, negative, r) ← widthOf d r
  let (precision, r) ← precisionOf d r
  match d.letter with
  | none => throw .unfinished
  | some (letter, position) =>
    let (v, r) ← r.next
    if Form.longest < precision.getD 0 then throw .memory
    let w ← convert letter position d.flags.alternate precision v
    if Form.longest < width then throw .memory
    return (fill d.flags (d.flags.left || negative) width w, r)

def writePieces (entries : Option (List (Value × Value))) :
    List Piece → Remaining → Except PercentError Text
  | [], r =>
    match r, entries with
    | .sequence (_ :: _), none => .error .tooMany
    | _, _ => .ok []
  | .literal t :: rest, r => (writePieces entries rest r).map (t ++ ·)
  | .directive d :: rest, r => do
    let (t, r) ← writeDirective entries d r
    return t ++ (← writePieces entries rest r)

/-- A message with its arguments. A single mapping that is not empty stands for its entries. -/
def write (t : Text) (arguments : List Value) : Except PercentError Text :=
  match arguments with
  | [.dict (e :: es)] => writePieces (some (e :: es)) (pieces t) (.single (.dict (e :: es)))
  | vs => writePieces none (pieces t) (.sequence vs)

end Percent

end Registry
