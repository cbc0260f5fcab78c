import Registry.Preparation

/-!
# The command line

Prepares the database of the standard configuration in the working directory. What is logged goes to
the error output, and so does what could not be done, with the exit code 1.
-/

namespace Registry.CommandLine

/-- Puts a text on the error output. -/
def report (t : Text) : IO Unit := IO.eprintln ((t.toString?).getD "")

/-- The variables of the process. -/
def readEnvironment : IO Environment := do
  let bytes ← IO.FS.readBinFile "/proc/self/environ"
  let entries := (Utf8.decodeLossy bytes.toList).splitBy fun a _ => a.val != 0
  return entries.filterMap fun entry =>
    Text.splitFirst? (Text.ofString "=") (entry.filter fun c => c.val != 0)

/-- What stands under a path, if something does. -/
def lookAt (path : Text) : IO (Option FileEntry) := do
  match path.toString? with
  | none => return none
  | some name =>
    try
      return some (.data (← IO.FS.readBinFile name).toList)
    catch
      | .noFileOrDirectory .. => return none
      | _ => return some .directory

/-- The entries under paths. -/
def readFiles (paths : List Text) : IO Files :=
  paths.filterMapM fun path => return (← lookAt path).map fun entry => (path, entry)

def prepare : IO (Except PreparationError (List Logging.Record × Preparation.Prepared)) := do
  let environment ← readEnvironment
  let named := (environment.get? ConfigTree.fileVariable).getD ConfigTree.standardFile
  let files ← readFiles [Files.tidied named, ConfigTree.variablesFile]
  match Preparation.configuration ⟨environment, files⟩ with
  | .error e => return .error e
  | .ok (c, environment) =>
    return Preparation.run c ⟨environment, ← readFiles (Preparation.paths c)⟩

end Registry.CommandLine

open Registry in
/-- The program. -/
def main : IO UInt32 := do
  match ← CommandLine.prepare with
  | .ok (records, _) =>
    for r in records do
      CommandLine.report (r.level.column ++ Text.ofString " | " ++ r.message)
    return 0
  | .error e =>
    CommandLine.report e.activity
    return 1
