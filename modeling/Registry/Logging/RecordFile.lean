import Registry.Config
import Registry.Files
import Registry.Logging.Limit
import Registry.Logging.Record
import Registry.Message.Braces

/-!
# Files of records

The path of a file of records is a pattern in the brace notation, in which `time` is the time at
which the file is opened. The directories on the way to it are made first, those of the path as it
was given. A file beyond its limit is put aside, and a new one is begun; it is read under the path
as it was given, so nothing is found there if the pattern made another one.
-/

namespace Registry.Logging

inductive RecordFileError
  | refused (r : Refusal)
  | longName
  | directory
  | missing
  | noDirectory
deriving DecidableEq

/-- A file of records: its path as it was given and as the pattern made it, and its limit. -/
structure RecordFile where
  given : Text
  path : Text
  limit : Limit

namespace RecordFile

/-! ## Opening -/

/-- What keeps a path from being used. -/
def pathFault? (path : Text) : Option RecordFileError :=
  match EncodeError.ofName? path with
  | some e => some (.refused ⟨.encoding, e.message⟩)
  | none =>
    if Files.hasNull path then some (.refused (Refusal.value "embedded null byte"))
    else if Files.hasLongName path then some .longName
    else none

/-- The steps of a path up to its name. -/
def parent (path : Text) : List Text := (Files.steps path).dropLast

/-- The text of steps. -/
def joined (steps : List Text) : Text := (steps.intersperse (Text.ofString "/")).flatten

/-- The places of the directories that are made on the way to a path, the path aside. -/
def directories (path : Text) : List (List Text) :=
  (List.range ((parent path).length + 1)).map fun n =>
    Files.normalized (joined ((parent path).take n))

def noPath (t : ConfigTree) : Refusal :=
  match t with
  | .leaf (.bytes _) =>
    Refusal.kind
      "argument should be a str object or an os.PathLike object returning str, not <class 'bytes'>"
  | t => Refusal.kind ("expected str, bytes or os.PathLike object, not " ++ t.kindName)

/-- The path of what was given as one. -/
def givenPath (t : ConfigTree) : Except RecordFileError Text :=
  match t with
  | .leaf (.text path) => .ok path
  | t => .error (.refused (noPath t))

/-- The faults of a pattern that show before anything is filled in. -/
def patternFault? (pattern : Text) : Option BraceError :=
  (Braces.pieces pattern).findSome? fun
    | .fault e => some e
    | _ => none

/-- The path that a pattern makes. -/
def made (pattern : Text) : Except BraceError Text :=
  Braces.writeWith pattern ⟨none, [(Text.ofString "time", .clock)]⟩

def noPattern (e : BraceError) : RecordFileError := .refused ⟨e.sort, e.message⟩

/-- Stops with a fault, if there is one. -/
def stopAt (fault : Option RecordFileError) : Except RecordFileError Unit :=
  fault.elim (.ok ()) .error

/-- Checks for how long files are kept that were put aside. -/
def checkKept (t : ConfigTree) : Except Refusal Unit :=
  match t with
  | .leaf v => Limit.checkKept v
  | t => .error (Limit.noKept t.kindName)

/-- The place of a path up to a null. -/
def place (path : Text) : List Text := Files.normalized (path.takeWhile fun c => c.val != 0)

def ofPath (s : LoggingSettings) (given : Text) : Except RecordFileError RecordFile := do
  let pattern := Files.tidied given
  stopAt (pathFault? (joined (parent pattern)))
  stopAt ((patternFault? pattern).map noPattern)
  let limit ← (Limit.ofSize s.maxSize.plainText).mapError .refused
  (checkKept s.backups).mapError .refused
  let path ← (made pattern).mapError noPattern
  stopAt (pathFault? (path.takeWhile fun c => c.val != 0))
  if place path = [] ∨ place path ∈ directories pattern then throw .directory
  return ⟨given, path, limit⟩

/-- Opens the file of settings, if they have one. -/
def ofSettings (s : LoggingSettings) : Except RecordFileError (Option RecordFile) :=
  if s.file.isFilled then do
    let given ← givenPath s.file
    return some (← ofPath s given)
  else .ok none

/-! ## Writing and reading -/

/-- No record has fewer octets. -/
def leastRecord : Binary64 := 64

/-- Every record is beyond the limit, so each begins a new file. -/
def beginsEachTime (f : RecordFile) : Bool :=
  match f.limit with
  | .octets n => (n.add leastRecord.negate).isNegative
  | .seconds _ => false

/-- What is in the file of records that were put into it one after another, some in vain. -/
def content (f : RecordFile) (records : List (Option Record)) : List Record :=
  if f.beginsEachTime then (records.getLast?.bind id).toList else records.filterMap id

/-- A path leads into what it names. -/
def leadsInto (path : Text) : Bool :=
  match (Files.steps path).getLast? with
  | some step => step.isEmpty || step == Text.ofString "."
  | none => false

/-- Why the file cannot be read under the path as it was given. -/
def readFault? (f : RecordFile) : Option RecordFileError :=
  if Files.hasNull f.given then some (.refused (Refusal.value "embedded null byte"))
  else if f.path ≠ Files.tidied f.given then some .missing
  else if leadsInto f.given then some .noDirectory
  else none

end RecordFile

end Registry.Logging
