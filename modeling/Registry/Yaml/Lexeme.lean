import Registry.Text.Encoding.Utf8
import Registry.Yaml.Cursor
import Registry.Yaml.Fault

/-!
# Lexemes

The parts of a document that are longer than a character or two: plain, quoted and block scalars,
the names of anchors, tags and directives. Every reader takes the cursor before a lexeme and gives
what the lexeme says and the cursor after it.

A line break inside a scalar counts as a space, and each empty line after it as a line feed; a block
scalar keeps its breaks unless it is folded.
-/

namespace Registry.Yaml

/-- The text of a line break that empty lines follow. -/
def foldBreaks (first : CodePoint) (breaks : Text) : Text :=
  if first ≠ CodePoint.ofChar '\n' then first :: breaks
  else if breaks.isEmpty then [CodePoint.ofChar ' ']
  else breaks

/-! ## Plain scalars -/

/-- The beginning of a text that a plain scalar holds without a break. -/
def plainRun (inFlow : Bool) : Text → Text
  | [] => []
  | x :: rest =>
    if x.isGap then []
    else if x.is ':' && (rest.head?.all CodePoint.isGap
        || (inFlow && rest.head?.any (CodePoint.isOneOf ",[]\x7b\x7d"))) then []
    else if inFlow && x.isOneOf ",?[]\x7b\x7d" then []
    else x :: plainRun inFlow rest

/-- What stands between two runs of a plain scalar: the text that it counts as, empty if the scalar
ends there, whether it crosses a line, and the place after it. -/
structure Between where
  text : Text
  crosses : Bool
  after : Cursor

/-- The line breaks at a cursor with the spaces around them, unless the mark of a document stands
behind one. -/
def plainBreaks : (fuel : Nat) → Cursor → Option Text × Cursor
  | 0, c => (some [], c)
  | fuel + 1, c =>
    if c.isAt ' ' then plainBreaks fuel c.next
    else
      match c.takeBreak? with
      | none => (some [], c)
      | some (x, after) =>
        if after.atDocumentMark then (none, after)
        else
          let (breaks, last) := plainBreaks fuel after
          (breaks.map (x :: ·), last)

/-- What stands at a cursor between two runs. -/
def plainBetween (c : Cursor) : Between :=
  let (spaces, c) := c.takeWhile (CodePoint.is · ' ')
  match c.takeBreak? with
  | none => ⟨spaces, false, c⟩
  | some (x, after) =>
    if after.atDocumentMark then ⟨[], true, after⟩
    else
      match plainBreaks after.rest.length after with
      | (some breaks, last) => ⟨foldBreaks x breaks, true, last⟩
      | (none, last) => ⟨[], true, last⟩

/-- A plain scalar, and whether a line has been crossed after its last run. -/
structure Plain where
  text : Text
  crosses : Bool

/-- Reads the runs of a plain scalar; `before` stands in front of the next one. -/
def plainRuns (inFlow : Bool) (indent : Int) :
    (fuel : Nat) → (before : Text) → (crossed : Bool) → Cursor → Plain × Cursor
  | 0, _, crossed, c => (⟨[], crossed⟩, c)
  | fuel + 1, before, crossed, c =>
    let run := if c.isAt '#' then [] else plainRun inFlow c.rest
    if run.isEmpty then (⟨[], crossed⟩, c)
    else
      let between := plainBetween (c.skip run.length)
      if between.text.isEmpty || between.after.isAt '#'
          || (!inFlow && decide ((between.after.column : Int) < indent)) then
        (⟨before ++ run, between.crosses⟩, between.after)
      else
        let (more, last) := plainRuns inFlow indent fuel between.text between.crosses between.after
        (⟨before ++ run ++ more.text, more.crosses⟩, last)

/-- Reads a plain scalar. On further lines it stands from a column on. -/
def plain (inFlow : Bool) (indent : Int) (c : Cursor) : Plain × Cursor :=
  plainRuns inFlow indent c.rest.length [] false c

/-! ## Quoted scalars -/

/-- The line breaks at a cursor with the blanks around them. No mark of a document may stand at the
beginning of a line. -/
def quotedBreaks : (fuel : Nat) → Cursor → Except YamlFault (Text × Cursor)
  | 0, _ => .error .malformed
  | fuel + 1, c =>
    if c.atDocumentMark then .error .malformed
    else
      let c := c.dropWhile CodePoint.isSpaceOrTab
      match c.takeBreak? with
      | none => .ok ([], c)
      | some (x, after) => (quotedBreaks fuel after).map fun (breaks, last) => (x :: breaks, last)

/-- The blanks or breaks at a cursor inside quotes. -/
def quotedGap (c : Cursor) : Except YamlFault (Text × Cursor) :=
  let (blanks, c) := c.takeWhile CodePoint.isSpaceOrTab
  match c.takeBreak? with
  | none => .ok (blanks, c)
  | some (x, after) =>
    (quotedBreaks (after.rest.length + 1) after).map fun (breaks, last) =>
      (foldBreaks x breaks, last)

/-- The code points that stand for others after a backslash. -/
def escapes : List (Char × Nat) :=
  [('0', 0x00), ('a', 0x07), ('b', 0x08), ('t', 0x09), ('\t', 0x09), ('n', 0x0A), ('v', 0x0B),
    ('f', 0x0C), ('r', 0x0D), ('e', 0x1B), (' ', 0x20), ('"', 0x22), ('\\', 0x5C), ('/', 0x2F),
    ('N', 0x85), ('_', 0xA0), ('L', 0x2028), ('P', 0x2029)]

/-- The letters that hexadecimal digits follow, and how many. -/
def numericEscapes : List (Char × Nat) := [('x', 2), ('u', 4), ('U', 8)]

/-- The number that a count of hexadecimal digits at a cursor is. -/
def takeHex (count : Nat) (c : Cursor) : Except YamlFault (Nat × Cursor) :=
  match (c.rest.take count).mapM CodePoint.hexValue? with
  | some digits =>
    if digits.length = count then .ok (digits.foldl (fun n d => 16 * n + d) 0, c.skip count)
    else .error .malformed
  | none => .error .malformed

/-- The code point of a number. -/
def pointOf (n : Nat) : Except YamlFault CodePoint :=
  if h : n < 0x110000 then .ok ⟨n, h⟩ else .error (.codePoint n)

/-- What stands after a backslash. -/
def escape (c : Cursor) : Except YamlFault (Text × Cursor) :=
  match escapes.find? fun (x, _) => c.isAt x with
  | some (_, n) => .ok ([CodePoint.ofNat n], c.next)
  | none =>
    match numericEscapes.find? fun (x, _) => c.isAt x with
    | some (_, count) => do
      let (n, after) ← takeHex count c.next
      return ([← pointOf n], after)
    | none =>
      match c.takeBreak? with
      | some (_, after) => quotedBreaks (after.rest.length + 1) after
      | none => .error .malformed

/-- Reads what stands between quotes and the second quote. -/
def quotedParts (double : Bool) : (fuel : Nat) → Cursor → Except YamlFault (Text × Cursor)
  | 0, _ => .error .malformed
  | fuel + 1, c =>
    match c.rest with
    | [] => .error .malformed
    | x :: rest =>
      let go (part : Text) (after : Cursor) : Except YamlFault (Text × Cursor) :=
        (quotedParts double fuel after).map fun (t, last) => (part ++ t, last)
      if x.isGap then do
        let (part, after) ← quotedGap c
        go part after
      else if x.is (if double then '"' else '\'') then
        if !double && rest.head?.any (CodePoint.is · '\'') then go [x] (c.skip 2)
        else .ok ([], c.next)
      else if double && x.is '\\' then do
        let (part, after) ← escape c.next
        go part after
      else go [x] c.next

def quoted (double : Bool) (c : Cursor) : Except YamlFault (Text × Cursor) :=
  quotedParts double (c.rest.length + 1) c.next

/-! ## Block scalars -/

/-- What becomes of the breaks at the end of a block scalar. -/
inductive Chomping
  | strip
  | clip
  | keep

/-- The sign of a way of chomping at a cursor. -/
def chompingAt? (c : Cursor) : Option Chomping :=
  if c.isAt '+' then some .keep else if c.isAt '-' then some .strip else none

/-- The digit of an indentation at a cursor. -/
def indentationAt? (c : Cursor) : Option Nat :=
  (c.head?.filter CodePoint.isDigit).map CodePoint.digitValue

/-- The header of a block scalar: how it is chomped, and how far it is indented if that is said. -/
structure BlockHeader where
  chomping : Chomping
  indentation : Option Nat

/-- Reads the signs of a header in either order. -/
def blockSigns (c : Cursor) : BlockHeader × Cursor :=
  match chompingAt? c with
  | some chomping =>
    match indentationAt? c.next with
    | some n => (⟨chomping, some n⟩, c.skip 2)
    | none => (⟨chomping, none⟩, c.next)
  | none =>
    match indentationAt? c with
    | some n =>
      match chompingAt? c.next with
      | some chomping => (⟨chomping, some n⟩, c.skip 2)
      | none => (⟨.clip, some n⟩, c.next)
    | none => (⟨.clip, none⟩, c)

/-- Reads the rest of a line that holds nothing but a comment. -/
def restOfLine (c : Cursor) : Except YamlFault Cursor :=
  let c := c.dropSpaces.dropComment
  if c.endsWith CodePoint.isBreak then .ok ((c.takeBreak?.map (·.2)).getD c) else .error .malformed

/-- Reads the line of a header. -/
def blockHeader (c : Cursor) : Except YamlFault (BlockHeader × Cursor) :=
  let (header, c) := blockSigns c
  if header.indentation = some 0 then .error .malformed
  else if c.endsWith CodePoint.isSpaceOrBreak then (restOfLine c).map fun after => (header, after)
  else .error .malformed

/-- The breaks before the first line of a block scalar, and the widest column of its empty lines. -/
def leadingBreaks : (fuel : Nat) → (widest : Nat) → Cursor → Text × Nat × Cursor
  | 0, widest, c => ([], widest, c)
  | fuel + 1, widest, c =>
    if c.isAt ' ' then leadingBreaks fuel (max widest c.next.column) c.next
    else
      match c.takeBreak? with
      | none => ([], widest, c)
      | some (x, after) =>
        let (breaks, widest, last) := leadingBreaks fuel widest after
        (x :: breaks, widest, last)

/-- The breaks at a cursor, each line indented as far as it is up to a column. -/
def blockBreaks (indent : Nat) : (fuel : Nat) → Cursor → Text × Cursor
  | 0, c => ([], c)
  | fuel + 1, c =>
    let c := c.indentTo indent
    match c.takeBreak? with
    | none => ([], c)
    | some (x, after) =>
      let (breaks, last) := blockBreaks indent fuel after
      (x :: breaks, last)

/-- A line of a block scalar begins at the cursor. -/
def atBlockLine (indent : Nat) (c : Cursor) : Bool := c.column == indent && !c.rest.isEmpty

/-- The lines of a block scalar, the break of the last one, and the breaks behind it. -/
structure BlockText where
  text : Text
  lastBreak : Text
  breaks : Text

/-- Reads the lines of a block scalar; `breaks` stands in front of the first. -/
def blockLines (folded : Bool) (indent : Nat) :
    (fuel : Nat) → (breaks : Text) → Cursor → BlockText × Cursor
  | 0, breaks, c => (⟨[], [], breaks⟩, c)
  | fuel + 1, breaks, c =>
    if !atBlockLine indent c then (⟨[], [], breaks⟩, c)
    else
      let (line, c') := c.takeWhile fun x => !x.isBreak
      let (lineBreak, c') := match c'.takeBreak? with
        | some (x, after) => ([x], after)
        | none => ([], c')
      let (more, c') := blockBreaks indent (c'.rest.length + 1) c'
      if atBlockLine indent c' then
        let isFolded := folded && lineBreak == [CodePoint.ofChar '\n']
          && !line.head?.any CodePoint.isSpaceOrTab && !c'.head?.any CodePoint.isSpaceOrTab
        let joint :=
          if isFolded then if more.isEmpty then [CodePoint.ofChar ' '] else [] else lineBreak
        let (tail, last) := blockLines folded indent fuel more c'
        (⟨breaks ++ line ++ joint ++ tail.text, tail.lastBreak, tail.breaks⟩, last)
      else (⟨breaks ++ line, lineBreak, more⟩, c')

/-- The text of a block scalar, chomped. -/
def BlockText.chomp (b : BlockText) : Chomping → Text
  | .strip => b.text
  | .clip => b.text ++ b.lastBreak
  | .keep => b.text ++ b.lastBreak ++ b.breaks

/-- Reads a block scalar inside a block of an indentation. -/
def block (folded : Bool) (outer : Int) (c : Cursor) : Except YamlFault (Text × Cursor) := do
  let (header, c) ← blockHeader c.next
  let least := max 1 (outer + 1).toNat
  let (breaks, indent, c) :=
    match header.indentation with
    | some n =>
      let indent := least + n - 1
      let (breaks, c) := blockBreaks indent (c.rest.length + 1) c
      (breaks, indent, c)
    | none =>
      let (breaks, widest, c) := leadingBreaks c.rest.length 0 c
      (breaks, max least widest, c)
  let (text, last) := blockLines folded indent c.rest.length breaks c
  return (text.chomp header.chomping, last)

/-! ## Anchors -/

/-- Reads the name of an anchor or an alias after its sign. -/
def anchorName (c : Cursor) : Except YamlFault (Text × Cursor) :=
  let (name, after) := c.next.takeWhile CodePoint.isNameChar
  if name.isEmpty then .error .malformed
  else if after.endsWith fun x => x.isGap || x.isOneOf "?:,]\x7d%@`" then .ok (name, after)
  else .error .malformed

/-! ## Tags -/

/-- A code point of a tag. -/
def isTagChar (x : CodePoint) : Bool :=
  x.isAsciiAlphanumeric || x.isOneOf "-;/?:@&=+$,_.!~*'()[]%"

/-- The octets of the escapes at a cursor. -/
def escapedOctets : (fuel : Nat) → Cursor → Except YamlFault (Octets × Cursor)
  | 0, c => .ok ([], c)
  | fuel + 1, c =>
    if c.isAt '%' then do
      let (n, after) ← takeHex 2 c.next
      let (more, last) ← escapedOctets fuel after
      return (n.toUInt8 :: more, last)
    else .ok ([], c)

/-- Reads the code points of a tag, escapes undone. -/
def tagParts : (fuel : Nat) → Cursor → Except YamlFault (Text × Cursor)
  | 0, c => .ok ([], c)
  | fuel + 1, c =>
    match c.head?.filter isTagChar with
    | none => .ok ([], c)
    | some x =>
      if x.is '%' then do
        let (octets, after) ← escapedOctets c.rest.length c
        match Utf8.decode octets with
        | .error _ => .error .malformed
        | .ok t =>
          let (more, last) ← tagParts fuel after
          return (t ++ more, last)
      else do
        let (more, last) ← tagParts fuel c.next
        return (x :: more, last)

/-- Reads a tag or a part of one, which must not be empty. -/
def tagText (c : Cursor) : Except YamlFault (Text × Cursor) := do
  let (t, after) ← tagParts c.rest.length c
  if t.isEmpty then .error .malformed else .ok (t, after)

/-- Reads a handle: a name between two exclamation marks, or one mark before a space. -/
def tagHandle (c : Cursor) : Except YamlFault (Text × Cursor) :=
  if !c.isAt '!' then .error .malformed
  else if c.next.isAt ' ' then .ok (Text.ofString "!", c.next)
  else
    let (name, after) := c.next.takeWhile CodePoint.isNameChar
    if after.isAt '!' then .ok (Text.ofString "!" ++ name ++ Text.ofString "!", after.next)
    else .error .malformed

/-- A tag: a handle, unless it is given in full, and what follows it. -/
structure Tag where
  handle : Option Text
  suffix : Text
deriving DecidableEq

/-- Reads a tag up to what must stand behind it. -/
def tagBody (c : Cursor) : Except YamlFault (Tag × Cursor) :=
  if c.next.isAt '<' then do
    let (suffix, after) ← tagText (c.skip 2)
    if after.isAt '>' then .ok (⟨none, suffix⟩, after.next) else .error .malformed
  else if c.next.endsWith CodePoint.isGap then .ok (⟨none, Text.ofString "!"⟩, c.next)
  else do
    let word := c.next.rest.takeWhile fun x => !x.isSpaceOrBreak
    let (handle, after) ←
      if word.any (CodePoint.is · '!') then tagHandle c else .ok (Text.ofString "!", c.next)
    let (suffix, after) ← tagText after
    return (⟨some handle, suffix⟩, after)

def tag (c : Cursor) : Except YamlFault (Tag × Cursor) := do
  let (t, after) ← tagBody c
  if after.endsWith CodePoint.isSpaceOrBreak then .ok (t, after) else .error .malformed

/-! ## Directives -/

/-- A directive: the version of the format, the text that a tag handle stands for, or another one.
-/
inductive Directive
  | version (major : Nat)
  | handle (name meaning : Text)
  | other
deriving DecidableEq

def number (c : Cursor) : Except YamlFault (Nat × Cursor) :=
  let (digits, after) := c.takeWhile CodePoint.isDigit
  if digits.isEmpty then .error .malformed
  else if Text.integerLengthLimit < digits.length then .error (.integer (.long digits.length))
  else .ok (Text.digitsValue digits, after)

def version (c : Cursor) : Except YamlFault (Directive × Cursor) := do
  let (major, c) ← number c.dropSpaces
  if !c.isAt '.' then .error .malformed
  else
    let (_, c) ← number c.next
    if c.endsWith CodePoint.isSpaceOrBreak then .ok (.version major, c) else .error .malformed

/-- Reads a handle and the text that it stands for. -/
def handleMeaning (c : Cursor) : Except YamlFault (Directive × Cursor) := do
  let (name, c) ← tagHandle c.dropSpaces
  if !c.isAt ' ' then .error .malformed
  else
    let (meaning, c) ← tagText c.dropSpaces
    if c.endsWith CodePoint.isSpaceOrBreak then .ok (.handle name meaning, c) else .error .malformed

/-- Reads a directive with its line. -/
def directive (c : Cursor) : Except YamlFault (Directive × Cursor) := do
  let (name, c) := c.next.takeWhile CodePoint.isNameChar
  if name.isEmpty || !c.endsWith CodePoint.isSpaceOrBreak then .error .malformed
  else
    let (d, c) ←
      if name = Text.ofString "YAML" then version c
      else if name = Text.ofString "TAG" then handleMeaning c
      else .ok (.other, c.dropWhile fun x => !x.isBreak)
    return (d, ← restOfLine c)

end Registry.Yaml
