import Registry.Engine
import Registry.Repository
import Registry.Session.Block

/-!
# The database service

One engine with the database behind it, for all parts of an application: it creates and drops the
identity table, describes it, runs blocks of work and makes repositories. A connection that has been
used once stays in the pool. A database that cannot be opened fails every use of a connection.
-/

namespace Registry

/-- A configured engine and the database behind it, and how many connections are idle. -/
structure Service where
  config : Config
  engine : Engine
  database : Database
  reachable : Bool
  idle : Nat

inductive ServiceError
  | secret (e : SecretError)
  | engine (e : EngineError)

namespace Service

/-! ## Building -/

/-- A service on an empty database that is shared with others. -/
def shared (c : Config) : Service := ⟨c, ⟨"sqlite", .shared, .resource .memory⟩, none, true, 0⟩

/-- The database behind a storage can be opened. -/
def opens (h : Host) : Storage → Bool
  | .resource .memory => true
  | .resource (.file path .create) => h.files.canOpen path
  | .resource (.file path .existing) => h.files.isFile path
  | .resource .nowhere => false
  | .server => false

/-- The service of a configuration on an empty database. -/
def build (c : Config) (h : Host) : Except ServiceError Service := do
  let arguments ← (EngineArguments.ofConfig c h).mapError .secret
  let engine ← (Engine.ofArguments arguments).mapError .engine
  return ⟨c, engine, none, opens h engine.storage, 0⟩

/-! ## Connections -/

/-- The service after a connection has been used. -/
def used (s : Service) : Service := { s with idle := 1 }

def connect (s : Service) : Except DatabaseFault Service :=
  if s.reachable then .ok s.used else .error .operational

/-- A connection can be used. -/
def isHealthy (s : Service) : Bool := s.reachable

/-- The state of the pool, if it has one to show. -/
def poolStatus (s : Service) : Option PoolStatus := PoolStatus.of? s.engine.pool s.idle

/-! ## The table -/

/-- Creates the table unless it is there. -/
def createTable (s : Service) : Except DatabaseFault Service :=
  s.connect.map fun s => { s with database := s.database.create }

/-- Drops the table if it is there. -/
def dropTable (s : Service) : Except DatabaseFault Service :=
  s.connect.map fun s => { s with database := none }

def hasTable (s : Service) : Except DatabaseFault Bool := s.connect.map fun s => s.database.isSome

/-- The columns of an index of the table, and whether it keeps them distinct. -/
structure Index where
  name : String
  columns : List Column
  distinct : Bool

def indexes : List Index := [⟨"ix_identity_created_at", [.createdAt], false⟩]

/-- The place of a column in the primary key, from one, and zero for others. -/
def keyPosition (c : Column) : Nat := if c = .identityId then 1 else 0

/-! ## Work -/

/-- Some step of a block needs a connection: rows are added and not given up before a flush. -/
def needsConnection : List BlockStep → (waiting : Bool) → Bool
  | [], waiting => waiting
  | .add _ :: rest, _ => needsConnection rest true
  | .flush :: rest, waiting => waiting || needsConnection rest waiting
  | .raise _ :: _, _ => false

def runBlock (s : Service) (body : List BlockStep) : Except BlockError Unit × Service :=
  if !needsConnection body false then ((Session.block s.database body).1, s)
  else if s.reachable then
    let (result, database) := Session.block s.database body
    (result, { s.used with database := database })
  else (.error (.statement (.database .operational)), s)

/-- How sessions work: whether rows that are added are flushed before a query, and whether rows have
to be read again after a commit. -/
structure SessionSettings where
  flushesByItself : Bool
  expiresOnCommit : Bool

def sessionSettings : SessionSettings := ⟨true, false⟩

/-- The repository of the service, with the bound of a configuration. -/
def repository (s : Service) (c : Config) : Except Refusal Repository :=
  (DatabaseSettings.ofSection c.database "read_timeout_seconds").map fun d =>
    ⟨s.engine.dialect, d.readTimeout⟩

/-- The database that a repository works on: one that cannot be opened has no table. -/
def openDatabase (s : Service) : Database := if s.reachable then s.database else none

/-- The service after a repository has worked on its database. -/
def afterWork (s : Service) (d : Database) : Service :=
  if s.reachable then { s.used with database := d } else s

end Service

end Registry
