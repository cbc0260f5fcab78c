import Registry.Config.Secret

/-!
# Arguments of an engine

What an engine is made with: the connection string, what its connections are told, and the sizes of
its pool. What a connection is told is decided by the words in the address, and whether the pool has
sizes by its beginning.
-/

namespace Registry

namespace ConfigTree

/-- The refusal of what nothing can be looked for in. -/
def noContainer (t : ConfigTree) : Refusal :=
  Refusal.kind ("argument of type '" ++ t.qualifiedKindName ++ "' is not iterable")

/-- A word is in what stands in a tree: inside of a text, or one of the items of a container. -/
def mentions (t : ConfigTree) (word : String) : Except Refusal Bool :=
  let isWord (v : Value) : Bool := v == .text (Text.ofString word)
  match t with
  | leaf (.text s) => .ok (Text.hasInfix (Text.ofString word) s)
  | leaf (.bytes _) => .error (Refusal.kind "a bytes-like object is required, not 'str'")
  | leaf (.list vs) => .ok (vs.any isWord)
  | leaf (.tuple vs) => .ok (vs.any isWord)
  | leaf (.dict entries) => .ok (entries.any fun (k, _) => isWord k)
  | leaf (.other .set) => .ok false
  | leaf _ => .error t.noContainer
  | model .. => .ok false

/-- The address that stands in the place of the database section. -/
def addressSetting (database : ConfigTree) : Except Refusal ConfigTree :=
  if database.isSection .database then .ok (database.setting "url")
  else .error (database.noSection ["url"])

end ConfigTree

inductive ConnectArguments
  | postgresql (application : Text)
  | sqlite
  | none
deriving DecidableEq

namespace ConnectArguments

/-- The arguments under their names. -/
def entries : ConnectArguments → List (String × Value)
  | postgresql application =>
    [("application_name", .text application), ("connect_timeout", .int 30)]
  | sqlite => [("check_same_thread", .bool false), ("timeout", .int 20)]
  | none => []

/-- What the connections of a configuration are told. -/
def ofConfig (c : Config) : Except Refusal ConnectArguments := do
  let address ← c.database.addressSetting
  if ← address.mentions "postgresql" then
    let app ← AppSettings.ofSection c.app "name"
    return postgresql (app.name ++ Text.ofString "_" ++ app.environment.name)
  if ← address.mentions "sqlite" then return sqlite
  return none

end ConnectArguments

/-- How many connections a pool keeps and how long. -/
structure PoolSettings where
  size : Value
  maxOverflow : Value
  timeout : Value
  recycle : Value
deriving DecidableEq

namespace PoolSettings

/-- The settings under their names. -/
def entries (p : PoolSettings) : List (String × Value) :=
  [("pool_size", p.size), ("max_overflow", p.maxOverflow), ("pool_timeout", p.timeout),
    ("pool_recycle", p.recycle)]

/-- The pool of a configuration; that of a database in a file or in memory has no settings. -/
def ofConfig (c : Config) : Except Refusal (Option PoolSettings) := do
  match ← c.database.addressSetting with
  | .leaf (.text url) =>
    if (Text.dropPrefix? (Text.ofString "sqlite") url).isSome then return none
    let s := DatabaseSettings.ofTree c.database
    return some ⟨s.poolSize, s.maxOverflow, s.poolTimeout, s.poolRecycle⟩
  | t => throw (t.lacks "startswith")

end PoolSettings

structure EngineArguments where
  url : Text
  connect : ConnectArguments
  pool : Option PoolSettings
deriving DecidableEq

namespace EngineArguments

/-- The arguments of a configuration, if it has a connection string. -/
def ofConfig (c : Config) (h : Host) : Except SecretError EngineArguments := do
  let _ ← (AppSettings.ofSection c.app "environment").mapError .refused
  let connect ← (ConnectArguments.ofConfig c).mapError .refused
  let pool ← (PoolSettings.ofConfig c).mapError .refused
  return ⟨← (DatabaseSettings.ofTree c.database).connectionString h, connect, pool⟩

/-- The arguments under their names, but for those of a connection: connections are tested before
use, and nothing is echoed. -/
def entries (a : EngineArguments) : List (String × Value) :=
  [("pool_pre_ping", .bool true), ("echo", .bool false), ("echo_pool", .bool false)]
    ++ ((a.pool.map PoolSettings.entries).getD [])

end EngineArguments

end Registry
