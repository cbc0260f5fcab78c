/-!
# Texts

A text is a list of Unicode code points. Surrogates are code points too: a metadata string may hold
a lone one, which no `Char` can. Everything that the registry stores, reads or prints is a `Text`;
literals are written as `String`s and coerced.

`Text.lines` cuts a text at line boundaries and keeps them (`lines_flatten`), and
`Text.splitFirst?` cuts at the first occurrence of a separator.
-/

namespace Registry

/-- A Unicode code point, surrogates included. -/
structure CodePoint where
  val : Nat
  isLt : val < 0x110000
deriving DecidableEq

/-- A sequence of code points. -/
abbrev Text := List CodePoint

namespace CodePoint

theorem val_injective {a b : CodePoint} (h : a.val = b.val) : a = b := by
  cases a; cases b; simp_all

instance : Inhabited CodePoint := ⟨⟨0, by decide⟩⟩

theorem char_lt (c : Char) : c.toNat < 0x110000 := by
  have h := c.valid
  simp only [UInt32.isValidChar, Nat.isValidChar] at h
  simp only [Char.toNat]
  omega

def ofChar (c : Char) : CodePoint := ⟨c.toNat, char_lt c⟩

instance : Coe Char CodePoint := ⟨ofChar⟩

/-- The code point is a given character. -/
def is (c : CodePoint) (x : Char) : Bool := c == ofChar x

/-- The code point with a given number, the replacement character if there is none. -/
def ofNat (n : Nat) : CodePoint :=
  if h : n < 0x110000 then ⟨n, h⟩ else ⟨0xFFFD, by decide⟩

/-- First half of a surrogate pair. -/
def isHighSurrogate (c : CodePoint) : Bool := 0xD800 ≤ c.val && c.val ≤ 0xDBFF

/-- Second half of a surrogate pair. -/
def isLowSurrogate (c : CodePoint) : Bool := 0xDC00 ≤ c.val && c.val ≤ 0xDFFF

/-- Either half of a surrogate pair. -/
def isSurrogate (c : CodePoint) : Bool := 0xD800 ≤ c.val && c.val ≤ 0xDFFF

/-- The code point beyond the basic plane that a surrogate pair stands for. -/
def ofSurrogates (high low : CodePoint) : CodePoint :=
  ofNat (0x10000 + (high.val - 0xD800) * 0x400 + (low.val - 0xDC00))

/-- An ASCII decimal digit. -/
def isDigit (c : CodePoint) : Bool := 0x30 ≤ c.val && c.val ≤ 0x39

def digitValue (c : CodePoint) : Nat := c.val - 0x30

/-- The value of an ASCII hexadecimal digit. -/
def hexValue? (c : CodePoint) : Option Nat :=
  if 0x30 ≤ c.val ∧ c.val ≤ 0x39 then some (c.val - 0x30)
  else if 0x61 ≤ c.val ∧ c.val ≤ 0x66 then some (c.val - 0x61 + 10)
  else if 0x41 ≤ c.val ∧ c.val ≤ 0x46 then some (c.val - 0x41 + 10)
  else none

/-- An ASCII letter or digit. -/
def isAsciiAlphanumeric (c : CodePoint) : Bool :=
  c.isDigit || (0x61 ≤ c.val && c.val ≤ 0x7A) || (0x41 ≤ c.val && c.val ≤ 0x5A)

/-- The lower-case form of an ASCII capital; every other code point is kept. -/
def asciiLower (c : CodePoint) : CodePoint :=
  if 0x41 ≤ c.val ∧ c.val ≤ 0x5A then ofNat (c.val + 0x20) else c

/-- The hexadecimal digit of a number below 16, in lower case. -/
def ofHexDigit (n : Nat) : CodePoint := ofNat (if n < 10 then 0x30 + n else 0x61 + (n - 10))

/-- The upper-case hexadecimal digit of a number below 16. -/
def ofUpperHexDigit (n : Nat) : CodePoint := ofNat (if n < 10 then 0x30 + n else 0x41 + (n - 10))

/-- A place where a line ends: the Unicode line and paragraph boundaries and the ASCII file, group
and record separators. -/
def isLineBoundary (c : CodePoint) : Bool :=
  (0x0A ≤ c.val && c.val ≤ 0x0D) || (0x1C ≤ c.val && c.val ≤ 0x1E) || c.val == 0x85
    || c.val == 0x2028 || c.val == 0x2029

end CodePoint

namespace Text

def ofString (s : String) : Text := s.toList.map CodePoint.ofChar

instance : Coe String Text := ⟨ofString⟩

/-- The decimal digits of a number. -/
def ofNat (n : Nat) : Text := (Nat.toDigits 10 n).map CodePoint.ofChar

/-- The decimal digits of an integer, after a minus sign if it is negative. -/
def ofInt (n : Int) : Text :=
  if n < 0 then CodePoint.ofChar '-' :: ofNat n.natAbs else ofNat n.natAbs

/-- Fills a text with zeros on the left up to a width. -/
def zeroPad (width : Nat) (t : Text) : Text :=
  List.replicate (width - t.length) (CodePoint.ofChar '0') ++ t

/-- A number in decimal, with at least `width` digits. -/
def padded (width n : Nat) : Text := zeroPad width (ofNat n)

/-- The last `width` hexadecimal digits of a number, in lower case. -/
def hex : (width : Nat) → (n : Nat) → Text
  | 0, _ => []
  | width + 1, n => hex width (n / 16) ++ [CodePoint.ofHexDigit (n % 16)]

def digitsValue (t : Text) : Nat := t.foldl (fun n c => 10 * n + c.digitValue) 0

/-- The order of texts by code point, a proper beginning first. -/
def le : Text → Text → Bool
  | [], _ => true
  | _ :: _, [] => false
  | a :: s, b :: t => if a.val < b.val then true else if b.val < a.val then false else le s t

/-- What follows a beginning, if the text has it. -/
def dropPrefix? : Text → Text → Option Text
  | [], t => some t
  | _ :: _, [] => none
  | a :: p, b :: t => if a = b then dropPrefix? p t else none

theorem dropPrefix?_eq_some_iff {p t r : Text} : dropPrefix? p t = some r ↔ t = p ++ r := by
  induction p generalizing t with
  | nil => simp [dropPrefix?]
  | cons a p ih =>
    cases t with
    | nil => simp [dropPrefix?]
    | cons b t =>
      by_cases h : a = b
      · simp [dropPrefix?, h, ih]
      · simp [dropPrefix?, h, Ne.symm h]

/-- The parts before and after the first occurrence of a separator. -/
def splitFirst? (separator : Text) : Text → Option (Text × Text)
  | [] => (dropPrefix? separator []).map fun r => ([], r)
  | c :: rest =>
    match dropPrefix? separator (c :: rest) with
    | some r => some ([], r)
    | none => (splitFirst? separator rest).map fun (before, after) => (c :: before, after)

def hasInfix (part t : Text) : Bool := (splitFirst? part t).isSome

/-- The parts between the occurrences of one code point. -/
def splitOn (separator : CodePoint) : Text → List Text
  | [] => [[]]
  | c :: rest =>
    if c = separator then [] :: splitOn separator rest
    else match splitOn separator rest with
      | [] => [[c]]
      | part :: parts => (c :: part) :: parts

/-- Removes code points of a class from both ends. -/
def trim (isBlank : CodePoint → Bool) (t : Text) : Text :=
  ((t.dropWhile isBlank).reverse.dropWhile isBlank).reverse

/-- A line ends after `c` when `rest` follows: a carriage return and a line feed end it together. -/
def endsLine (c : CodePoint) (rest : Text) : Bool :=
  c.isLineBoundary && !(c.val == 0x0D && rest.head?.any fun d => d.val == 0x0A)

/-- The lines of a text, each with the boundary that ends it. -/
def lines : Text → List Text
  | [] => []
  | c :: rest =>
    if endsLine c rest then [c] :: lines rest
    else match lines rest with
      | [] => [[c]]
      | line :: more => (c :: line) :: more

/-- Cutting into lines loses nothing. -/
theorem lines_flatten (t : Text) : (lines t).flatten = t := by
  induction t with
  | nil => rfl
  | cons c rest ih =>
    rw [lines]
    split
    · simp [ih]
    · split <;> simp_all

/-- Every line break as a line feed: a carriage return becomes one unless a line feed follows. -/
def unifyNewlines : Text → Text
  | [] => []
  | c :: rest =>
    if c.val = 0x0D then
      if rest.head?.any fun d => d.val == 0x0A then unifyNewlines rest
      else CodePoint.ofChar '\n' :: unifyNewlines rest
    else c :: unifyNewlines rest

/-- The text as a string, if it has no surrogates. -/
def toString? (t : Text) : Option String :=
  let char? (c : CodePoint) : Option Char :=
    if h : c.val.isValidChar then some (Char.ofNatAux c.val h) else none
  (t.mapM char?).map String.ofList

end Text

end Registry
