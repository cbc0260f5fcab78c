import Registry.Failure

/-!
# Files

The files of a working directory, each under its path from there. A path is followed lexically: `.`
stays and `..` goes back, where every step before has to be a directory. Paths from the root lead
out of the working directory and find nothing.
-/

namespace Registry

/-- What stands under a path: data or a directory. -/
inductive FileEntry
  | data (b : Octets)
  | directory
deriving DecidableEq

/-- The entries of a working directory. -/
abbrev Files := List (Text × FileEntry)

inductive FileError
  | unreadable
  | nullInPath
  | unencodablePath (e : EncodeError)
  | undecodable (e : DecodeError)
deriving DecidableEq

namespace Files

/-- The steps of a path. -/
def steps (path : Text) : List Text := Text.splitOn (CodePoint.ofChar '/') path

/-- The entry at a place, given by names; the places around an entry are directories. -/
def at? (files : Files) (place : List Text) : Option FileEntry :=
  if place.isEmpty then some .directory
  else
    match files.find? fun (path, _) => steps path == place with
    | some (_, entry) => some entry
    | none =>
      if files.any fun (path, _) => place.isPrefixOf (steps path) then some .directory else none

def isDirectory (files : Files) (place : List Text) : Bool := files.at? place == some .directory

/-- The place that steps lead to from another one; `place` holds the names in reverse. -/
def follow? (files : Files) (place : List Text) : List Text → Option (List Text)
  | [] => some place
  | step :: rest =>
    if !files.isDirectory place.reverse then none
    else if step.isEmpty || step == Text.ofString "." then follow? files place rest
    else if step == Text.ofString ".." then
      match place with
      | [] => none
      | _ :: outer => follow? files outer rest
    else follow? files (step :: place) rest

/-- The entry that a path leads to. -/
def find? (files : Files) (path : Text) : Option FileEntry :=
  if path.head?.any (CodePoint.is · '/') || path.isEmpty then none
  else (files.follow? [] (steps path)).bind fun place => files.at? place.reverse

/-- A path without empty steps and steps that stay. -/
def tidied (path : Text) : Text :=
  let kept := (steps path).filter fun step => !step.isEmpty && step != Text.ofString "."
  let joined := (kept.intersperse (Text.ofString "/")).flatten
  if path.head?.any (CodePoint.is · '/') then Text.ofString "/" ++ joined
  else if joined.isEmpty then Text.ofString "."
  else joined

/-- The path leads to data. -/
def isFile (files : Files) (path : Text) : Bool :=
  match files.find? path with
  | some (.data _) => true
  | _ => false

/-- The path has a code point that no path has. -/
def hasNull (path : Text) : Bool := path.any fun c => c.val == 0

/-- The text of the file that a path leads to: UTF-8, with every line break as a line feed. -/
def readText (files : Files) (path : Text) : Except FileError Text :=
  match EncodeError.ofName? path with
  | some e => .error (.unencodablePath e)
  | none =>
    if hasNull path then .error .nullInPath
    else
      match files.find? path with
      | some (.data b) => ((Utf8.decode b).map Text.unifyNewlines).mapError .undecodable
      | _ => .error .unreadable

/-- A path without `.` and `..`, and without what `..` goes back over. -/
def normalized (path : Text) : List Text :=
  (steps path).foldl
    (fun place step =>
      if step.isEmpty || step == Text.ofString "." then place
      else if step == Text.ofString ".." then place.dropLast
      else place ++ [step])
    []

/-- The most octets of a name in a path. -/
def longestName : Nat := 255

def hasLongName (path : Text) : Bool :=
  (steps path).any fun step => longestName < (Utf8.encode step).length

/-- A file can be created or opened at the normalized path, up to a null: its directory is there and
it is none. -/
def canOpen (files : Files) (path : Text) : Bool :=
  let path : Text := path.takeWhile fun c => c.val != 0
  let place := normalized path
  !place.isEmpty && !hasLongName path && files.isDirectory place.dropLast
    && !files.isDirectory place

end Files

end Registry
