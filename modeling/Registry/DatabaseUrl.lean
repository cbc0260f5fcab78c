import Registry.Failure
import Registry.Text.Percent
import Registry.Text.Integer

/-!
# Database URLs

The address of a database: a driver, perhaps a user with a password, a host, a port, the name of the
database and a query. Reading matches the parts from the left, each as long as it can be, and passes
over what is left; `DatabaseUrl.text` writes them back.
-/

namespace Registry

/-- The parts of the address of a database. A key of the query has one value or more. -/
structure DatabaseUrl where
  driver : Text
  user : Option Text
  password : Option Text
  host : Option Text
  port : Option Int
  database : Option Text
  query : List (Text × List Text)
deriving DecidableEq

/-- Why a text is no address, or an address has no text. -/
inductive UrlError
  | malformed
  | port (e : IntegerError)
  | unencodable (e : EncodeError)
deriving DecidableEq

namespace UrlError

/-- The wording of an error, if it has one of its own. -/
def message? : UrlError → Option Text
  | malformed => none
  | port e => some e.message
  | unencodable e => some e.message

end UrlError

namespace DatabaseUrl

/-! ## Reading -/

/-- The name of the driver before `://`, and what is left. -/
def takeDriver? (t : Text) : Option (Text × Text) :=
  let isName (c : CodePoint) : Bool := c.isWord || c.is '+'
  let name := t.takeWhile isName
  if name.isEmpty then none
  else (Text.dropPrefix? (Text.ofString "://") (t.dropWhile isName)).map fun rest => (name, rest)

/-- What stands before the last sign `@` of a text, and after it. -/
def splitLastAt? (t : Text) : Option (Text × Text) :=
  let after := t.reverse.takeWhile fun c => !c.is '@'
  if after.length = t.length then none
  else some (t.take (t.length - after.length - 1), after.reverse)

/-- The user and password before a sign `@`, and what is left. A password follows the first colon
and reaches to the next `@`; without one the user reaches to the last `@` before a colon or slash.
-/
def takeUser (t : Text) : (Option Text × Option Text) × Text :=
  let isUser (c : CodePoint) : Bool := !c.is ':' && !c.is '/'
  let run := t.takeWhile isUser
  let rest := t.dropWhile isUser
  let byLastAt : (Option Text × Option Text) × Text :=
    match splitLastAt? run with
    | some (user, after) => ((some user, none), after ++ rest)
    | none => ((none, none), t)
  match rest with
  | [] => byLastAt
  | c :: afterColon =>
    if c.is ':' then
      let password := afterColon.takeWhile fun c => !c.is '@'
      match afterColon.drop password.length with
      | [] => byLastAt
      | _ :: left => ((some run, some password), left)
    else byLastAt

/-- The host in brackets at the beginning of a text, and what is left: up to the last closing
bracket before a slash or question mark. -/
def takeBracketed? (t : Text) : Option (Text × Text) :=
  match t with
  | [] => none
  | c :: rest =>
    if c.is '[' then
      let run := rest.takeWhile fun c => !c.is '/' && !c.is '?'
      let after := run.reverse.takeWhile fun c => !c.is ']'
      let host := run.take (run.length - after.length - 1)
      if after.length = run.length ∨ host.isEmpty then none
      else some (host, rest.drop (host.length + 1))
    else none

/-- The host at the beginning of a text, and what is left. -/
def takeHost (t : Text) : Option Text × Text :=
  match takeBracketed? t with
  | some (host, left) => (some host, left)
  | none =>
    let isHost (c : CodePoint) : Bool := !c.is '/' && !c.is ':' && !c.is '?'
    let host := t.takeWhile isHost
    (if host.isEmpty then none else some host, t.dropWhile isHost)

/-- A part that a character begins and code points of a class make up, and what is left. -/
def takePart (opening : Char) (isPart : CodePoint → Bool) (t : Text) : Option Text × Text :=
  match t with
  | [] => (none, [])
  | c :: rest =>
    if c.is opening then (some (rest.takeWhile isPart), rest.dropWhile isPart) else (none, t)

/-- Adds a value under a key of a query. -/
def addValue (query : List (Text × List Text)) (key value : Text) : List (Text × List Text) :=
  match query with
  | [] => [(key, [value])]
  | (k, vs) :: rest =>
    if k = key then (k, vs ++ [value]) :: rest else (k, vs) :: addValue rest key value

/-- The key and value of a field of a query; a field without a value has none. -/
def readField? (t : Text) : Option (Text × Text) :=
  match Text.splitFirst? (Text.ofString "=") t with
  | some (key, value) =>
    if value.isEmpty then none else some (Percent.decodeQuery key, Percent.decodeQuery value)
  | none => none

/-- The keys and values of a query. -/
def readQuery (t : Text) : List (Text × List Text) :=
  ((Text.splitOn (CodePoint.ofChar '&') t).filterMap readField?).foldl
    (fun query (key, value) => addValue query key value) []

/-- The address that a text begins with. -/
def read (t : Text) : Except UrlError DatabaseUrl :=
  match takeDriver? t with
  | none => .error .malformed
  | some (driver, rest) =>
    let ((user, password), rest) := takeUser rest
    let (host, rest) := takeHost rest
    let (port, rest) := takePart ':' (fun c => !c.is '/' && !c.is '?') rest
    let (database, rest) := takePart '/' (fun c => !c.is '?') rest
    let (query, _) := takePart '?' (fun c => !c.is '\n') rest
    let url (port : Option Int) : DatabaseUrl :=
      ⟨driver, user.map Percent.decode, password.map Percent.decode, host, port,
        database.map Percent.decode, (query.map readQuery).getD []⟩
    match port with
    | none => .ok (url none)
    | some digits => ((Text.readInteger .decimal digits).map fun n => url (some n)).mapError .port

/-! ## Writing -/

/-- A user or password as it is written. -/
def encodeUser (t : Text) : Text := Percent.encode (fun c => c.is ' ' || c.is '+') t

/-- The user and the password before a sign `@`. A password without a user is not written. -/
def userText (u : DatabaseUrl) : Text :=
  match u.user with
  | none => []
  | some user =>
    encodeUser user
      ++ (match u.password with
        | some password => Text.ofString ":" ++ encodeUser password
        | none => [])
      ++ Text.ofString "@"

/-- The host, between brackets if it has a colon. -/
def hostText (u : DatabaseUrl) : Text :=
  match u.host with
  | none => []
  | some host =>
    if host.any (CodePoint.is · ':') then Text.ofString "[" ++ host ++ Text.ofString "]" else host

/-- The database after a slash. -/
def databaseText (u : DatabaseUrl) : Text :=
  match u.database with
  | none => []
  | some name =>
    Text.ofString "/" ++ Percent.encode (fun c => c.is ' ' || c.is '+' || c.is '/') name

/-- The query in the order of its keys, after a question mark. -/
def queryText (u : DatabaseUrl) : Text :=
  let fields := (u.query.mergeSort fun a b => Text.le a.1 b.1).flatMap fun (key, values) =>
    values.map fun value =>
      Percent.encodeQuery key ++ Text.ofString "=" ++ Percent.encodeQuery value
  if u.query.isEmpty then []
  else Text.ofString "?" ++ (fields.intersperse (Text.ofString "&")).flatten

def text (u : DatabaseUrl) : Text :=
  u.driver ++ Text.ofString "://" ++ u.userText ++ u.hostText
    ++ (match u.port with
      | some n => Text.ofString ":" ++ Text.ofInt n
      | none => [])
    ++ u.databaseText ++ u.queryText

/-- The parts that are escaped, in the order in which they are written. -/
def escapedParts (u : DatabaseUrl) : List Text :=
  (match u.user with
    | some user => user :: u.password.toList
    | none => [])
    ++ u.database.toList
    ++ (u.query.mergeSort fun a b => Text.le a.1 b.1).flatMap fun (key, values) =>
      values.flatMap fun value => [key, value]

/-- The text of an address whose escaped parts have no surrogates. -/
def render (u : DatabaseUrl) : Except UrlError Text :=
  match u.escapedParts.findSome? EncodeError.of? with
  | some e => .error (.unencodable e)
  | none => .ok u.text

/-- The name of the dialect: the driver up to the first plus sign. -/
def dialect (u : DatabaseUrl) : Text := u.driver.takeWhile fun c => !c.is '+'

end DatabaseUrl

end Registry
