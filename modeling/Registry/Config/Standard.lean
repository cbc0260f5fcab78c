import Registry.Config.Load
import Registry.Environment.File

/-!
# The standard configuration

The configuration that is current outside of all blocks: that of the configuration file, or, where
there is no such file, one of a few variables of the environment. A file `.env` adds variables that
the environment lacks; it counts only there.
-/

namespace Registry

/-- Why there is no standard configuration. -/
inductive StandardError
  | load (e : LoadError)
  | variables (e : FileError)
  | invalid (errors : List FieldError)

namespace ConfigTree

/-- The variable that names the configuration file. -/
def fileVariable : Text := "APP_CONFIG_FILE"

/-- The configuration file when none is named. -/
def standardFile : Text := "config.yaml"

def variablesFile : Text := ".env"

/-- The text of the file of more variables, empty if there is none. -/
def variablesText (h : Host) : Except FileError Text :=
  if h.files.isFile variablesFile then h.files.readText variablesFile else .ok []

def ofVariables (find : Text → Option Text) : Except (List FieldError) ConfigTree := do
  let deployment := (find deploymentVariable).getD (Text.ofString "development")
  let level := (find "LOG_LEVEL").getD (Text.ofString "INFO")
  let url := (find "DATABASE_URL").getD standardUrl
  let entry (name value : Text) : Text × ConfigTree := (name, leaf (.text value))
  if !deployments.contains deployment then throw [⟨[.name deploymentVariable], .notListed⟩]
  let app ← section? .app [entry "environment" deployment]
  let logging ← section? .logging [entry "level" level]
  let database ← section? .database [entry "url" url, entry "environment_mode" deployment]
  ofInputs .config
    [(Section.app.name, app), (Section.logging.name, logging), (Section.database.name, database)]

/-- The standard configuration, and the environment after it is made. -/
def loadStandard (h : Host) : Except StandardError ConfigTree × Environment :=
  let path := Files.tidied ((h.environment.get? fileVariable).getD standardFile)
  if h.files.isFile path then
    let (result, env) := load h path
    (result.mapError .load, env)
  else
    let result : Except StandardError ConfigTree := do
      let file ← (variablesText h).mapError .variables
      (ofVariables (EnvironmentFile.value? h.environment file)).mapError .invalid
    (result, h.environment)

end ConfigTree

end Registry
