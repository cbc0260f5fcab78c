import Registry.Yaml.Timestamp

/-!
# Kinds of nodes

What a node of a document stands for: told by its tag, or, for a plain scalar without one, by its
form. `on` and `no` are truth values, `1:30` is a number in base sixty, a number with a point is a
floating-point number, and all that has no form of its own is a text.
-/

namespace Registry.Yaml

/-- What a node stands for. -/
inductive Kind
  | null
  | truth
  | int
  | float
  | binary
  | timestamp
  | text
  | sequence
  | mapping
  | set
  | orderedMapping
  | pairs
  | merge
  | value
  | unknown
deriving DecidableEq

namespace Kind

/-- The beginning of the tags that have a meaning. -/
def tagPrefix : String := "tag:yaml.org,2002:"

def tags : List (String × Kind) :=
  [("null", null), ("bool", truth), ("int", int), ("float", float), ("binary", binary),
    ("timestamp", timestamp), ("str", text), ("seq", sequence), ("map", mapping), ("set", set),
    ("omap", orderedMapping), ("pairs", pairs), ("merge", merge), ("value", value)]

def ofTag (t : Text) : Kind :=
  match tags.find? fun (name, _) => Text.ofString (tagPrefix ++ name) == t with
  | some (_, kind) => kind
  | none => unknown

/-! ## Forms of plain scalars -/

def truthWords : List String :=
  ["yes", "Yes", "YES", "no", "No", "NO", "true", "True", "TRUE", "false", "False", "FALSE",
    "on", "On", "ON", "off", "Off", "OFF"]

def nullWords : List String := ["~", "null", "Null", "NULL"]

/-- A text is one of listed words. -/
def isWord (words : List String) (t : Text) : Bool := words.any fun w => Text.ofString w == t

/-- A text without a sign. -/
def unsigned (t : Text) : Text :=
  match t with
  | [] => []
  | c :: rest => if c.is '-' || c.is '+' then rest else t

/-- A digit or an underscore. -/
def isDigitOrLine (c : CodePoint) : Bool := c.isDigit || c.is '_'

/-- A digit, and then digits and underscores. -/
def isDigits (t : Text) : Bool := t.head?.any CodePoint.isDigit && t.all isDigitOrLine

/-- An exponent with a sign, or nothing. -/
def isExponent (t : Text) : Bool :=
  match t with
  | [] => true
  | e :: sign :: digits =>
    (e.is 'e' || e.is 'E') && (sign.is '-' || sign.is '+') && !digits.isEmpty
      && digits.all CodePoint.isDigit
  | _ => false

/-- Digits and underscores, and then an exponent or nothing. -/
def isFraction (t : Text) : Bool := isExponent (t.dropWhile isDigitOrLine)

/-- A number below sixty of one or two digits. -/
def isSixtieth (t : Text) : Bool :=
  match t with
  | [a] => a.isDigit
  | [a, b] => a.isDigit && a.val < 0x36 && b.isDigit
  | _ => false

/-- Parts between colons, at least two: digits, and then numbers below sixty. -/
def isSexagesimal (t : Text) : Bool :=
  match Text.splitOn (CodePoint.ofChar ':') t with
  | first :: second :: rest => isDigits first && (second :: rest).all isSixtieth
  | _ => false

/-- The form of a floating-point number. -/
def isFloat (t : Text) : Bool :=
  let bare := unsigned t
  isWord [".nan", ".NaN", ".NAN"] t || isWord [".inf", ".Inf", ".INF"] bare
    || match Text.splitFirst? (Text.ofString ".") bare with
      | some (whole, fraction) =>
        (isDigits whole && isFraction fraction)
          || (isSexagesimal whole && fraction.all isDigitOrLine)
          || (t == bare && whole.isEmpty && fraction.head?.any CodePoint.isDigit
            && isFraction fraction)
      | none => false

/-- Digits of a class and underscores, at least one of them. -/
def isRun (isDigit : CodePoint → Bool) (t : Text) : Bool :=
  !t.isEmpty && t.all fun c => isDigit c || c.is '_'

/-- The form of an integer in one of the bases. -/
def isInt (t : Text) : Bool :=
  let bare := unsigned t
  match bare with
  | [] => false
  | zero :: rest =>
    if zero.is '0' then
      rest.isEmpty || isRun (fun c => c.isDigit && c.val < 0x38) rest
        || (rest.head?.any (CodePoint.is · 'b')
          && isRun (fun c => c.is '0' || c.is '1') (rest.drop 1))
        || (rest.head?.any (CodePoint.is · 'x')
          && isRun (fun c => c.hexValue?.isSome) (rest.drop 1))
    else isDigits bare || isSexagesimal bare

/-- A text without a line feed at its end. -/
def withoutFinalBreak (t : Text) : Text :=
  if t.getLast?.any fun c => c.val == 0x0A then t.dropLast else t

def ofPlain (t : Text) : Kind :=
  let form := withoutFinalBreak t
  if t.isEmpty || isWord nullWords form then null
  else if isWord truthWords form then truth
  else if isFloat form then float
  else if isInt form then int
  else if Timestamp.isTimestamp form then timestamp
  else if isWord ["<<"] form then merge
  else if isWord ["="] form then value
  else if isWord ["!", "&", "*"] form then unknown
  else text

end Kind

end Registry.Yaml
