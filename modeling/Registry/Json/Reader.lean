import Registry.Json.Lexeme
import Registry.Text.Encoding.Detect

/-!
# Reading JSON documents

`readValue depth` reads a value with at most `depth` levels of arrays and objects around one
another. The readers of the members of a container take the reader of a value as an argument and a
count that bounds the members, so everything is structural recursion on the levels and on that
count.

Of the members of an object with one name the last value is kept, at the place of the first.
-/

namespace Registry.Json

/-- Reads the items of an array from the first one on. -/
def readItems (value : Text → Step Value) : (count : Nat) → Text → Step (List Value)
  | 0, t => .error (.fault .value t)
  | count + 1, t =>
    match value t with
    | .error e => .error e
    | .ok (v, left) =>
      match skipBlanks left with
      | [] => .error (.fault .comma [])
      | c :: rest =>
        if c.is ']' then .ok ([v], rest)
        else if c.is ',' then
          match readItems value count (skipBlanks rest) with
          | .ok (vs, left) => .ok (v :: vs, left)
          | .error e => .error e
        else .error (.fault .comma (c :: rest))

/-- Reads an array after its opening bracket. -/
def readArray (value : Text → Step Value) (t : Text) : Step Value :=
  match skipBlanks t with
  | [] => .error (.fault .value [])
  | c :: rest =>
    if c.is ']' then .ok (.list [], rest)
    else
      match readItems value (rest.length + 1) (c :: rest) with
      | .ok (vs, left) => .ok (.list vs, left)
      | .error e => .error e

/-- Reads the name of a member and the colon after it. -/
def readName (t : Text) : Step Text :=
  match t with
  | [] => .error (.fault .name [])
  | c :: rest =>
    if c.is '"' then
      match readString (c :: rest) rest with
      | .error e => .error e
      | .ok (name, left) =>
        match skipBlanks left with
        | [] => .error (.fault .colon [])
        | d :: rest =>
          if d.is ':' then .ok (name, skipBlanks rest) else .error (.fault .colon (d :: rest))
    else .error (.fault .name (c :: rest))

/-- Reads the members of an object from the first one on. -/
def readMembers (value : Text → Step Value) : (count : Nat) → Text → Step (List (Value × Value))
  | 0, t => .error (.fault .name t)
  | count + 1, t =>
    match readName t with
    | .error e => .error e
    | .ok (name, left) =>
      match value left with
      | .error e => .error e
      | .ok (v, left) =>
        match skipBlanks left with
        | [] => .error (.fault .comma [])
        | c :: rest =>
          if c.is '\x7d' then .ok ([(.text name, v)], rest)
          else if c.is ',' then
            match readMembers value count (skipBlanks rest) with
            | .ok (ms, left) => .ok ((.text name, v) :: ms, left)
            | .error e => .error e
          else .error (.fault .comma (c :: rest))

/-- Reads an object after its opening brace. -/
def readObject (value : Text → Step Value) (t : Text) : Step Value :=
  match skipBlanks t with
  | [] => .error (.fault .name [])
  | c :: rest =>
    if c.is '\x7d' then .ok (.dict [], rest)
    else
      match readMembers value (rest.length + 1) (c :: rest) with
      | .ok (ms, left) => .ok (Value.dictOf ms, left)
      | .error e => .error e

/-- Reads a value whose first code point tells its kind; `inner` reads what containers hold. -/
def readValueWith (inner : Text → Step Value) (t : Text) : Step Value :=
  match t with
  | [] => .error (.fault .value [])
  | c :: rest =>
    if c.is '"' then
      match readString t rest with
      | .ok (s, left) => .ok (.text s, left)
      | .error e => .error e
    else if c.is '\x7b' then readObject inner rest
    else if c.is '[' then readArray inner rest
    else readAtom t

/-- Opens a container inside the deepest one allowed. -/
def readTooDeep (_ : Text) : Step Value := .error .nesting

/-- Reads a value with at most `depth` levels of containers. -/
def readValue : (depth : Nat) → Text → Step Value
  | 0, t =>
    match t with
    | [] => .error (.fault .value [])
    | c :: _ => if c.is '\x7b' ∨ c.is '[' then .error .nesting else readValueWith readTooDeep t
  | depth + 1, t => readValueWith (readValue depth) t

/-- Reads a text that is one value and white space. -/
def readAll (t : Text) : Except Stop Value :=
  match readValue nestingLimit (skipBlanks t) with
  | .error e => .error e
  | .ok (v, left) =>
    match skipBlanks left with
    | [] => .ok v
    | rest => .error (.fault .extraData rest)

def parse (t : Text) : Except ReadError Value := (readAll t).mapError (ReadError.ofStop t)

/-- Reads a text, which may not begin with a byte order mark. -/
def readText (t : Text) : Except ReadError Value :=
  match t with
  | c :: _ => if c.val = 0xFEFF then .error (.fault .byteOrderMark ⟨0, 1, 1⟩) else parse t
  | [] => parse t

/-- Reads data in the encoding that they are in. -/
def readBytes (b : Octets) : Except ReadError Value :=
  match (Encoding.detect b).decode b with
  | .ok t => parse t
  | .error e => .error (.encoding e)

end Registry.Json
