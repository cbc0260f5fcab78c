import Registry.Text

/-!
# Cursors

A place in a text, with the number of the line and the column: what is left of the text, how many
code points lie before, and how many of them on the same line. A byte order mark takes no column.
-/

namespace Registry

namespace CodePoint

/-- A code point that ends a line of a document. -/
def isBreak (c : CodePoint) : Bool :=
  c.val == 0x0A || c.val == 0x0D || c.val == 0x85 || c.val == 0x2028 || c.val == 0x2029

def isSpaceOrTab (c : CodePoint) : Bool := c.val == 0x20 || c.val == 0x09

/-- A space, a tab or a line break. -/
def isGap (c : CodePoint) : Bool := c.isSpaceOrTab || c.isBreak

def isSpaceOrBreak (c : CodePoint) : Bool := c.val == 0x20 || c.isBreak

/-- A code point that a document may hold. -/
def isAllowed (c : CodePoint) : Bool :=
  c.val == 0x09 || c.val == 0x0A || c.val == 0x0D || (0x20 ≤ c.val && c.val ≤ 0x7E) || c.val == 0x85
    || (0xA0 ≤ c.val && c.val ≤ 0xD7FF) || (0xE000 ≤ c.val && c.val ≤ 0xFFFD) || 0x10000 ≤ c.val

/-- A code point of the name of an anchor, a directive or a tag handle. -/
def isNameChar (c : CodePoint) : Bool := c.isAsciiAlphanumeric || c.is '-' || c.is '_'

/-- One of listed characters. -/
def isOneOf (s : String) (c : CodePoint) : Bool := s.toList.any fun x => c.is x

end CodePoint

/-- A place in a text. -/
structure Cursor where
  rest : Text
  index : Nat
  line : Nat
  column : Nat

namespace Cursor

def start (t : Text) : Cursor := ⟨t, 0, 0, 0⟩

def head? (c : Cursor) : Option CodePoint := c.rest.head?

/-- The code point a number of places after the cursor. -/
def peek? (c : Cursor) (n : Nat) : Option CodePoint := c.rest[n]?

/-- The code point at the cursor is a given character. -/
def isAt (c : Cursor) (x : Char) : Bool := c.head?.any (CodePoint.is · x)

/-- The text is at an end, or goes on with a code point of a class. -/
def endsWith (c : Cursor) (p : CodePoint → Bool) : Bool := c.head?.all p

/-- A line ends after a code point when `rest` follows. -/
def breaksAfter (x : CodePoint) (rest : Text) : Bool :=
  x.val == 0x0A || x.val == 0x85 || x.val == 0x2028 || x.val == 0x2029
    || (x.val == 0x0D && !rest.head?.any fun y => y.val == 0x0A)

def next (c : Cursor) : Cursor :=
  match c.rest with
  | [] => c
  | x :: rest =>
    if breaksAfter x rest then ⟨rest, c.index + 1, c.line + 1, 0⟩
    else if x.val = 0xFEFF then ⟨rest, c.index + 1, c.line, c.column⟩
    else ⟨rest, c.index + 1, c.line, c.column + 1⟩

/-- The place after a number of code points. -/
def skip (c : Cursor) : Nat → Cursor
  | 0 => c
  | n + 1 => c.next.skip n

/-- The longest run of a class at the cursor, and the place after it. -/
def takeWhile (c : Cursor) (p : CodePoint → Bool) : Text × Cursor :=
  let run := c.rest.takeWhile p
  (run, c.skip run.length)

/-- The place after the longest run of a class. -/
def dropWhile (c : Cursor) (p : CodePoint → Bool) : Cursor := (c.takeWhile p).2

/-- The place after spaces. -/
def dropSpaces (c : Cursor) : Cursor := c.dropWhile (CodePoint.is · ' ')

/-- The place after the comment that begins at the cursor, if one does. -/
def dropComment (c : Cursor) : Cursor :=
  if c.isAt '#' then c.dropWhile fun x => !x.isBreak else c

/-- The line break at the cursor and the place after it: all breaks are line feeds, but for the
separators of lines and paragraphs. -/
def takeBreak? (c : Cursor) : Option (CodePoint × Cursor) :=
  match c.rest with
  | [] => none
  | x :: rest =>
    if x.val = 0x2028 ∨ x.val = 0x2029 then some (x, c.next)
    else if x.val = 0x0D ∧ rest.head?.any (fun y => y.val == 0x0A) then some ('\n', c.skip 2)
    else if x.isBreak then some ('\n', c.next)
    else none

/-- A mark of three equal characters stands at the cursor, before a gap or the end. -/
def hasMark (c : Cursor) (x : Char) : Bool :=
  c.rest.take 3 == List.replicate 3 (CodePoint.ofChar x) && (c.peek? 3).all CodePoint.isGap

/-- The mark of the beginning or the end of a document stands at the cursor. -/
def atDocumentMark (c : Cursor) : Bool := c.hasMark '-' || c.hasMark '.'

/-- The spaces at the cursor are skipped as long as the column is below a bound. -/
def indentTo (c : Cursor) (column : Nat) : Cursor :=
  c.skip (min (column - c.column) (c.rest.takeWhile (CodePoint.is · ' ')).length)

end Cursor

end Registry
