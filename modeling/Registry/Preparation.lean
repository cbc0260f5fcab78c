import Registry.Config.Standard
import Registry.Logging
import Registry.Service

/-!
# Preparing a database

The work of a new installation: the standard configuration is loaded, its logging set up, and the
identity table created in its database.
-/

namespace Registry

/-- Why a database cannot be prepared. -/
inductive PreparationError
  | configuration (e : StandardError)
  | logging (e : Logging.RecordFileError)
  | service (e : ServiceError)
  | database (f : DatabaseFault)

/-- What could not be done. -/
def PreparationError.activity : PreparationError → Text
  | configuration _ => "Failed to load the configuration"
  | logging _ => "Failed to configure logging"
  | service _ => "Failed to connect to the database"
  | database _ => "Failed to create the tables"

namespace Preparation

/-- The standard configuration of a host, and its environment with the overrides of the deployment.
-/
def configuration (h : Host) : Except PreparationError (Config × Environment) :=
  match ConfigTree.loadStandard h with
  | (.error e, _) => .error (.configuration e)
  | (.ok t, env) => .ok (Config.ofTree t, env)

/-- The directories on the way to a path, and the path itself. -/
def onTheWay (path : Text) : List Text :=
  let steps := Files.normalized path
  (List.range steps.length).map fun n =>
    ((steps.take (n + 1)).intersperse (Text.ofString "/")).flatten

/-- The paths that the preparation of a configuration depends on: those of its password and of its
database. -/
def paths (c : Config) : List Text :=
  let s := DatabaseSettings.ofTree c.database
  let password := (s.passwordFile.bind Except.toOption).toList
  match DatabaseUrl.read s.url with
  | .ok u => password ++ onTheWay (u.database.getD [])
  | .error _ => password

/-- A service whose table has been created, and how often its connections were released. -/
structure Prepared where
  service : Service
  releases : Nat

/-- Creates the table of a service and releases its connections. -/
def ofService (s : Service) : Except DatabaseFault Prepared := s.createTable.map fun s => ⟨s, 1⟩

/-- Prepares the database of a configuration. Gives what is logged and the service afterwards. -/
def run (c : Config) (h : Host) : Except PreparationError (List Logging.Record × Prepared) := do
  let kept ← (Logging.keep c [] []).mapError .logging
  let service ← (Service.build c h).mapError .service
  return (kept.console, ← (ofService service).mapError .database)

end Preparation

end Registry
