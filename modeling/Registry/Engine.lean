import Registry.Engine.Arguments
import Registry.Engine.Dialect
import Registry.Engine.FileQuery
import Registry.Engine.Hosts

/-!
# Database engines

The engine of a database: its dialect, the pool of its connections and the place that they lead to.
The address of a database in a file or in memory has no machine, and its query is read before
anything is opened; that of a server may name several hosts.
-/

namespace Registry

/-! ## Engines -/

/-- A pool of connections: shared with others, of one connection, or of a size, which goes below
zero by the connections that are still to be made. -/
inductive Pool
  | shared
  | single
  | sized (size overflow : Value)
deriving DecidableEq

/-- Where the connections of an engine lead. -/
inductive Storage
  | resource (r : Resource)
  | server
deriving DecidableEq

/-- A dialect with its pool and the place of its database. -/
structure Engine where
  dialect : Text
  pool : Pool
  storage : Storage
deriving DecidableEq

inductive EngineError
  | url (e : UrlError)
  | unknownPlugin
  | unknownDialect
  | missingDriver
  | manyDrivers
  | foreignParts
  | hosts (e : HostsError)
  | refused (r : Refusal)
deriving DecidableEq

/-- The wording of the error for more parts than a pair has. -/
def EngineError.manyPartsMessage : String := "too many values to unpack (expected 2)"

namespace Pool

/-- How many connections the pool of a database in a file keeps. -/
def fileSize : Int := 5

/-- Zero less a size. -/
def belowZero (size : Value) : Except Refusal Value :=
  match size with
  | .int n => .ok (.int (-n))
  | .bool b => .ok (.int (if b then -1 else 0))
  | .float x => .ok (.float (Binary64.add 0 x.negate))
  | v =>
    .error (Refusal.kind
      ("unsupported operand type(s) for -: 'int' and '" ++ v.qualifiedKindName ++ "'"))

def ofSize (size : Value) : Except Refusal Pool := (belowZero size).map (sized size)

/-- The pool of a database in a file. -/
def ofFile : Pool := sized (.int fileSize) (.int (-fileSize))

end Pool

namespace Engine

/-- The names of plugins are asked for first, and there are none. -/
def checkPlugins (u : DatabaseUrl) : Except EngineError Unit :=
  if (FileQuery.values? u "plugin").isSome then .error .unknownPlugin else .ok ()

/-- The address without what names plugins. -/
def withoutPlugins (u : DatabaseUrl) : DatabaseUrl :=
  { u with query := u.query.filter fun (key, _) => key != Text.ofString "plugins" }

/-- A dialect and its driver are there. -/
def checkDriver (u : DatabaseUrl) : Except EngineError Unit :=
  if (u.driverName?.getD []).contains (CodePoint.ofChar '+') then .error .manyDrivers
  else
    match u.driverEntry? with
    | some .installed => .ok ()
    | some .missing => .error .missingDriver
    | some (.noDialect description) =>
      .error (.refused (Refusal.noAttribute description "dialect"))
    | none => .error .unknownDialect

/-- The database is one in memory: it has no name, or the query says so. -/
def inMemory (u : DatabaseUrl) : Bool :=
  match Text.filled? u.database with
  | none => true
  | some name =>
    name == Text.ofString ":memory:"
      || FileQuery.values? u "mode" == some [Text.ofString "memory"]

/-- The address has a part that a database on this machine has not. -/
def hasForeignParts (u : DatabaseUrl) : Bool :=
  (Text.filled? u.user).isSome || (Text.filled? u.password).isSome || (Text.filled? u.host).isSome
    || u.port.any (· != 0)

/-- The place of a database on this machine. -/
def resourceOf (u : DatabaseUrl) : Except EngineError Resource := do
  if hasForeignParts u then throw .foreignParts
  if ← (FileQuery.readArguments u FileQuery.arguments).mapError .refused then
    match ← (FileQuery.identifier u).mapError .refused with
    | some name => return Resource.read name
    | none => return .nowhere
  else return Resource.ofPath (u.database.getD []) .create

def ofArguments (a : EngineArguments) : Except EngineError Engine := do
  let u ← (DatabaseUrl.read a.url).mapError .url
  checkPlugins u
  let u := withoutPlugins u
  checkDriver u
  if u.dialect = Text.ofString "sqlite" then
    let r ← resourceOf u
    return ⟨u.dialect, if inMemory u then .single else .ofFile, .resource r⟩
  else
    (Hosts.check (FileQuery.values? u "host") (FileQuery.values? u "port")).mapError .hosts
    let pool ←
      match a.pool with
      | some p => (Pool.ofSize p.size).mapError .refused
      | none => pure .ofFile
    return ⟨u.dialect, pool, .server⟩

end Engine

/-! ## Pools -/

/-- A pool has no sizes to show. -/
def singleConnectionMessage : String := "'int' object is not callable"

structure PoolStatus where
  size : Value
  checkedIn : Int
  checkedOut : Value
  overflow : Value
deriving DecidableEq

namespace PoolStatus

/-- A value with a number of connections added. -/
def plus (v : Value) (connections : Nat) : Value :=
  match v with
  | .int n => .int (n + connections)
  | .float x => .float (x.add (Binary64.ofInt connections))
  | v => v

/-- What is out of a pool of a size from which nothing has been taken. -/
def nothingOut (size : Value) : Value :=
  match size with
  | .float x => .float (x.add x.negate)
  | _ => .int 0

def isZero (v : Value) : Bool := !v.isFilled

/-- The state of a pool with a number of idle connections; a pool of one connection has none to
show. -/
def of? (p : Pool) (idle : Nat) : Option PoolStatus :=
  match p with
  | .shared => some ⟨.int 0, 0, .int 0, .int 0⟩
  | .single => none
  | .sized size overflow =>
    some ⟨size, idle, nothingOut size, if isZero size then .int 0 else plus overflow idle⟩

end PoolStatus

end Registry
