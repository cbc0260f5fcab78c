import Registry.Yaml.Lexeme

/-!
# Tokens

A document as a sequence of tokens. Besides what is written there are tokens for the beginnings and
ends of blocks, told by columns, and for keys, most of which are only known by the colon behind
them: the lexer remembers where a key may have begun, and puts its token there when the colon comes.
A key without a mark of its own is on one line and at most 1024 code points long.
-/

namespace Registry.Yaml

inductive Token
  | directive (d : Directive)
  | documentStart
  | documentEnd
  | blockSequence
  | blockMapping
  | blockEnd
  | flowSequence
  | flowMapping
  | flowSequenceEnd
  | flowMappingEnd
  | blockEntry
  | flowEntry
  | key
  | value
  | alias (name : Text)
  | anchor (name : Text)
  | tag (t : Tag)
  | scalar (text : Text) (isPlain : Bool)
deriving DecidableEq

/-- Where a key may have begun: the flow around it, the number of its first token, whether it must
be a key, and its place. -/
structure PossibleKey where
  flow : Nat
  token : Nat
  required : Bool
  index : Nat
  line : Nat
  column : Nat

/-- A lexer between two tokens: its place, the tokens so far in reverse with their number, the
number of flows around it, the columns of the blocks around it, whether a key may begin, where one
may have begun (the innermost flow first), and whether all is read. -/
structure Lexer where
  cursor : Cursor
  tokens : List Token
  count : Nat
  flow : Nat
  indent : Int
  outer : List Int
  mayBeKey : Bool
  keys : List PossibleKey
  finished : Bool

namespace Lexer

/-- The lexer at the beginning of a document. -/
def start (t : Text) : Lexer := ⟨Cursor.start t, [], 0, 0, -1, [], true, [], false⟩

/-! ## Pushing tokens -/

def push (s : Lexer) (t : Token) : Lexer := { s with tokens := t :: s.tokens, count := s.count + 1 }

/-- Adds a token in front of the one of a number. -/
def insertAt (s : Lexer) (n : Nat) (t : Token) : Lexer :=
  let behind := s.count - n
  { s with tokens := s.tokens.take behind ++ t :: s.tokens.drop behind, count := s.count + 1 }

/-- Moves to another place. -/
def moveTo (s : Lexer) (c : Cursor) : Lexer := { s with cursor := c }

/-- Adds a token of a number of code points. -/
def take (s : Lexer) (n : Nat) (t : Token) : Lexer := (s.push t).moveTo (s.cursor.skip n)

/-- Says whether a key may begin next. -/
def allowKey (s : Lexer) (b : Bool) : Lexer := { s with mayBeKey := b }

/-! ## Blocks -/

/-- Ends the blocks around that are indented further than a column. -/
def endBlocks : (blocks : List Int) → (column : Int) → Lexer → Lexer
  | [], _, s => s
  | outer :: rest, column, s =>
    if column < s.indent then
      endBlocks rest column { s.push .blockEnd with indent := outer, outer := rest }
    else s

/-- Goes back to a column; inside a flow columns count for nothing. -/
def unwind (s : Lexer) (column : Int) : Lexer :=
  if s.flow = 0 then endBlocks s.outer column s else s

/-- Begins a block at a column, unless there is one, with a token in front of the one of a number.
-/
def beginBlock (s : Lexer) (column n : Nat) (t : Token) : Lexer :=
  if s.indent < column then
    { s.insertAt n t with indent := column, outer := s.indent :: s.outer }
  else s

/-! ## Possible keys -/

/-- The possible key in the innermost flow. -/
def key? (s : Lexer) : Option PossibleKey := s.keys.head?.filter fun k => k.flow == s.flow

/-- Forgets the possible key in the innermost flow, which must not be required. -/
def forgetKey (s : Lexer) : Except YamlFault Lexer :=
  match s.key? with
  | none => .ok s
  | some k => if k.required then .error .malformed else .ok { s with keys := s.keys.tail }

/-- Remembers that a key may begin here. -/
def rememberKey (s : Lexer) : Except YamlFault Lexer :=
  if s.mayBeKey then
    s.forgetKey.map fun s =>
      let c := s.cursor
      let required := s.flow == 0 && s.indent == c.column
      { s with keys := ⟨s.flow, s.count, required, c.index, c.line, c.column⟩ :: s.keys }
  else .ok s

/-- The length that a key without a mark may have. -/
def keyLengthLimit : Nat := 1024

/-- The key can still be followed by its colon. -/
def isFresh (s : Lexer) (k : PossibleKey) : Bool :=
  k.line == s.cursor.line && s.cursor.index ≤ k.index + keyLengthLimit

/-- Forgets all keys that have no colon in time, which must not be required. -/
def forgetStaleKeys (s : Lexer) : Except YamlFault Lexer :=
  let fresh := s.keys.takeWhile s.isFresh
  if (s.keys.drop fresh.length).any (·.required) then .error .malformed
  else .ok { s with keys := fresh }

/-! ## Single tokens -/

/-- Skips blanks, comments and line breaks. -/
def skipBlanks : (fuel : Nat) → Lexer → Lexer
  | 0, s => s
  | fuel + 1, s =>
    let c := s.cursor.dropSpaces.dropComment
    match c.takeBreak? with
    | none => s.moveTo c
    | some (_, after) =>
      skipBlanks fuel { s with cursor := after, mayBeKey := s.mayBeKey || s.flow == 0 }

/-- Ends all blocks, before a line that is outside of them. -/
def leaveBlocks (s : Lexer) : Except YamlFault Lexer :=
  ((s.unwind (-1)).forgetKey).map (·.allowKey false)

def endOfText (s : Lexer) : Except YamlFault Lexer :=
  s.leaveBlocks.map fun s => { s with keys := [], finished := true }

def takeDirective (s : Lexer) : Except YamlFault Lexer := do
  let s ← s.leaveBlocks
  let (d, after) ← directive s.cursor
  return (s.push (.directive d)).moveTo after

/-- The beginning or the end of a document. -/
def takeMark (s : Lexer) (t : Token) : Except YamlFault Lexer := s.leaveBlocks.map (·.take 3 t)

def beginFlow (s : Lexer) (t : Token) : Except YamlFault Lexer :=
  s.rememberKey.map fun s => ({ s with flow := s.flow + 1, mayBeKey := true }).take 1 t

def endFlow (s : Lexer) (t : Token) : Except YamlFault Lexer :=
  if s.flow = 0 then .error .malformed
  else s.forgetKey.map fun s => ({ s with flow := s.flow - 1, mayBeKey := false }).take 1 t

/-- A comma between entries of a flow. -/
def takeFlowEntry (s : Lexer) : Except YamlFault Lexer :=
  s.forgetKey.map fun s => (s.allowKey true).take 1 .flowEntry

/-- The beginning of a block at the cursor, where a key could begin. -/
def blockHere (s : Lexer) (t : Token) : Except YamlFault Lexer :=
  if s.flow ≠ 0 then .ok s
  else if !s.mayBeKey then .error .malformed
  else .ok (s.beginBlock s.cursor.column s.count t)

/-- A hyphen before an entry of a block. -/
def takeBlockEntry (s : Lexer) : Except YamlFault Lexer := do
  let s ← (← s.blockHere .blockSequence).forgetKey
  return (s.allowKey true).take 1 .blockEntry

/-- The mark of a key. -/
def takeKey (s : Lexer) : Except YamlFault Lexer := do
  let s ← (← s.blockHere .blockMapping).forgetKey
  return (s.allowKey (s.flow == 0)).take 1 .key

/-- The colon before a value: after a key without a mark, or by itself. -/
def takeValue (s : Lexer) : Except YamlFault Lexer :=
  match s.key? with
  | some k =>
    let s := { s with keys := s.keys.tail }.insertAt k.token .key
    let s := if s.flow = 0 then s.beginBlock k.column k.token .blockMapping else s
    .ok ((s.allowKey false).take 1 .value)
  | none => do
    let s ← (← s.blockHere .blockMapping).forgetKey
    return (s.allowKey (s.flow == 0)).take 1 .value

/-- A token that a key can begin with. -/
def takeNode (s : Lexer) (read : Cursor → Except YamlFault (Token × Cursor)) :
    Except YamlFault Lexer := do
  let s ← s.rememberKey
  let (t, after) ← read s.cursor
  return ((s.allowKey false).push t).moveTo after

def takeBlockScalar (s : Lexer) (folded : Bool) : Except YamlFault Lexer := do
  let s ← s.forgetKey
  let (t, after) ← block folded s.indent s.cursor
  return ((s.allowKey true).push (.scalar t false)).moveTo after

def takePlain (s : Lexer) : Except YamlFault Lexer := do
  let s ← s.rememberKey
  let (p, after) := plain (s.flow != 0) (s.indent + 1) s.cursor
  return ((s.allowKey p.crosses).push (.scalar p.text true)).moveTo after

/-- A plain scalar can begin at a cursor. -/
def beginsPlain (inFlow : Bool) (c : Cursor) : Bool :=
  match c.head? with
  | none => false
  | some x =>
    !(x.isGap || x.isOneOf "-?:,[]\x7b\x7d#&*!|>'\"%@`")
      || (!c.next.endsWith CodePoint.isGap && (x.is '-' || (!inFlow && x.isOneOf "?:")))

/-! ## All tokens -/

/-- The next token or the end, the blanks before it skipped. -/
def token (s : Lexer) : Except YamlFault Lexer :=
  let c := s.cursor
  let inFlow := s.flow != 0
  let spaced := c.next.endsWith CodePoint.isGap
  let node (read : Cursor → Except YamlFault (Text × Cursor)) (t : Text → Token) :
      Except YamlFault Lexer :=
    s.takeNode fun c => (read c).map fun (x, after) => (t x, after)
  if c.rest.isEmpty then s.endOfText
  else if c.isAt '%' && c.column == 0 then s.takeDirective
  else if c.column == 0 && c.hasMark '-' then s.takeMark .documentStart
  else if c.column == 0 && c.hasMark '.' then s.takeMark .documentEnd
  else if c.isAt '[' then s.beginFlow .flowSequence
  else if c.isAt '\x7b' then s.beginFlow .flowMapping
  else if c.isAt ']' then s.endFlow .flowSequenceEnd
  else if c.isAt '\x7d' then s.endFlow .flowMappingEnd
  else if c.isAt ',' then s.takeFlowEntry
  else if c.isAt '-' && spaced then s.takeBlockEntry
  else if c.isAt '?' && (inFlow || spaced) then s.takeKey
  else if c.isAt ':' && (inFlow || spaced) then s.takeValue
  else if c.isAt '*' then node anchorName .alias
  else if c.isAt '&' then node anchorName .anchor
  else if c.isAt '!' then s.takeNode fun c => (tag c).map fun (t, after) => (.tag t, after)
  else if c.isAt '|' && !inFlow then s.takeBlockScalar false
  else if c.isAt '>' && !inFlow then s.takeBlockScalar true
  else if c.isAt '\'' then node (quoted false) fun t => .scalar t false
  else if c.isAt '"' then node (quoted true) fun t => .scalar t false
  else if beginsPlain inFlow c then s.takePlain
  else .error .malformed

/-- Reads blanks and a token. -/
def step (s : Lexer) : Except YamlFault Lexer := do
  let s := skipBlanks (s.cursor.rest.length + 1) s
  let s ← s.forgetStaleKeys
  (s.unwind s.cursor.column).token

/-- The place after a byte order mark at the beginning. -/
def skipMark (s : Lexer) : Lexer :=
  if s.cursor.head?.any fun x => x.val == 0xFEFF then s.moveTo s.cursor.next else s

/-- The tokens that no key can come before any more: those in front of all possible keys. -/
def settled (s : Lexer) : List Token :=
  let fresh := s.keys.takeWhile s.isFresh
  s.tokens.reverse.take ((fresh.getLast?.map (·.token)).getD s.count)

/-- Reads tokens to the end, or up to a fault those that are settled by then. -/
def run : (fuel : Nat) → Lexer → List Token × Option YamlFault
  | 0, s => (s.settled, some .malformed)
  | fuel + 1, s =>
    match s.step with
    | .error e => (s.settled, some e)
    | .ok s => if s.finished then (s.tokens.reverse, none) else run fuel s

end Lexer

/-- The tokens of a document, up to its end, or those that are settled when a fault is met. -/
def tokens (t : Text) : List Token × Option YamlFault :=
  if t.all CodePoint.isAllowed then (Lexer.start t).skipMark.run (t.length + 1)
  else ([], some .malformed)

end Registry.Yaml
