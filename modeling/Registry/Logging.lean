import Registry.Logging.Logger
import Registry.Logging.RecordFile
import Registry.Message.Percent

/-!
# Logging

Records of events, kept on a console and in a file. Events come from this program, at levels of the
program's own, or from libraries, through their loggers. Configuring makes every logger hand its
events on, so the handlers that loggers had are gone; the database's own loggers are quieted.
-/

namespace Registry.Logging

/-! ## Events -/

/-- Something to be recorded: by a library under the name of a logger, or by this program. -/
inductive Event
  | library (logger : Text) (level : Value) (message : Text) (arguments : List Value)
      (exception : Option Text)
  | own (level : Value) (message : Text) (arguments : List Value) (exception : Option Text)

/-- A message of a library with its arguments, if there are any. -/
def libraryMessage (message : Text) (arguments : List Value) : Except Refusal Text :=
  if arguments.isEmpty then .ok message
  else (Percent.write message arguments).mapError fun e => ⟨e.sort, e.message⟩

/-- A message of this program with its arguments, if there are any. -/
def ownMessage (message : Text) (arguments : List Value) : Except Refusal Text :=
  if arguments.isEmpty then .ok message
  else (Braces.write message arguments).mapError fun e => ⟨e.sort, e.message⟩

/-- The record of an event, if it is kept. -/
def record? (loggers : Loggers) (least : Int) : Event → Except Refusal (Option Record)
  | .library logger level message arguments exception => do
    let level ← Level.ofLibraryValue level
    if level.number ≤ 0 ∨ level.number < effectiveLevel loggers logger then return none
    let message ← libraryMessage message arguments
    if level.number < least then return none
    let name := if isRoot logger then rootName else logger
    return some ⟨level, message, [(Text.ofString "logger_name", Value.text name)], exception⟩
  | .own level message arguments exception => do
    let level ← Level.ofValue level
    if level.number < least then return none
    return some ⟨level, ← ownMessage message arguments, [], exception⟩

/-- The records of events that are kept. -/
def records (loggers : Loggers) (least : Int) : List Event → Except Refusal (List Record)
  | [] => .ok []
  | e :: rest => do
    let r ← record? loggers least e
    return r.toList ++ (← records loggers least rest)

/-! ## Configuring -/

/-- The level that stands in a tree, from which on records are kept. -/
def threshold (t : ConfigTree) : Except Refusal Level :=
  match t with
  | .leaf v => Level.ofValue v
  | t => .error (Level.noLevel t.kindName)

/-- What stands in a tree as part of a record: a model as its text. -/
def extraValue (t : ConfigTree) : Value :=
  match t with
  | .leaf v => v
  | t => .text t.plainText

def configurationRecord (s : LoggingSettings) (d : Deployment) : Record :=
  ⟨Level.info, "Logging configured",
    [("app_level", extraValue s.level), ("app_format", extraValue s.format),
      ("app_file", extraValue s.file), ("environment", extraValue d.toTree)],
    none⟩

/-- What a file holds: plain lines, or records in full. -/
inductive FileContent
  | plain (records : List Record)
  | full (records : List Record)

/-- What is kept of events: on the console, in the file if there is one, the levels of the quieted
loggers, and what became of the loggers that were there before. -/
structure Kept where
  console : List Record
  file : Option FileContent
  quiet : List Int
  earlier : List (Nat × Bool)

/-- Records in a file, in the format that settings ask for. -/
def fileContent (s : LoggingSettings) (f : RecordFile) (records : List Record) : FileContent :=
  if s.format.isText "json" then .full (f.content (records.map Record.inFull?))
  else .plain (f.content (records.map Record.inPlain?))

/-- What a configuration keeps of events. -/
def keep (c : Config) (earlier : List EarlierLogger) (events : List Event) :
    Except RecordFileError Kept := do
  let d ← (AppSettings.ofSection c.app "environment").mapError .refused
  let s ← (LoggingSettings.ofTree c.logging).mapError .refused
  let least ← (threshold s.level).mapError .refused
  let file ← RecordFile.ofSettings s
  let loggers := configuredLevels earlier
  let kept ← (records loggers least.number events).mapError .refused
  let first := [configurationRecord s d.environment].filter fun r => least.number ≤ r.level.number
  let all := first ++ kept
  RecordFile.stopAt (file.bind RecordFile.readFault?)
  return ⟨all, file.map fun f => fileContent s f all, quieted.map (effectiveLevel loggers),
    earlier.map (afterConfiguring earlier)⟩

end Registry.Logging
