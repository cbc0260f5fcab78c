import Registry.Config
import Registry.DatabaseUrl
import Registry.Host

/-!
# The password of a database

In production the password comes from a file, or else from a variable, or else from the address; in
every other mode from the address. The connection string is the address with that password.
-/

namespace Registry

/-- Why there is no password or no connection string. -/
inductive SecretError
  | url (e : UrlError)
  | unreadableFile
  | nullInPath
  | unencodable (e : EncodeError)
  | undecodableFile (e : DecodeError)
  | unsetVariable (name : Text)
  | refused (r : Refusal)
deriving DecidableEq

namespace SecretError

def ofFile : FileError → SecretError
  | .unreadable => unreadableFile
  | .nullInPath => nullInPath
  | .unencodablePath e => unencodable e
  | .undecodable e => undecodableFile e

/-- The wording of an error, if it has one of its own. -/
def message? : SecretError → Option Text
  | url e => e.message?
  | unreadableFile => some (Text.ofString "Failed to read database password from file.")
  | nullInPath => some (Text.ofString "embedded null byte")
  | unencodable e => some e.message
  | undecodableFile _ => none
  | unsetVariable name =>
    some (Text.ofString "Environment variable " ++ name ++ Text.ofString " not set")
  | refused r => some r.message

end SecretError

/-- A text that is there and not empty. -/
def Text.filled? (t : Option Text) : Option Text := t.filter fun t => !t.isEmpty

namespace DatabaseSettings

def address (s : DatabaseSettings) : Except SecretError DatabaseUrl :=
  (DatabaseUrl.read s.url).mapError .url

def addressPassword (s : DatabaseSettings) : Except SecretError (Option Text) :=
  s.address.map (·.password)

/-- The password in a file, blanks around it aside. -/
def filePassword (h : Host) (path : Text) : Except SecretError Text :=
  ((h.files.readText path).map (Text.trim CodePoint.isBlank)).mapError .ofFile

/-- The password in a variable, which must not be empty. -/
def variablePassword (h : Host) (name : Text) : Except SecretError Text :=
  match EncodeError.ofName? name with
  | some e => .error (.unencodable e)
  | none =>
    match Text.filled? (h.environment.get? name) with
    | some password => .ok password
    | none => .error (.unsetVariable name)

/-- The password that is found in a place. -/
def passwordIn (find : Text → Except SecretError Text) (place : Asked) :
    Except SecretError (Option Text) :=
  match place with
  | .ok place => (find place).map some
  | .error r => .error (.refused r)

def password (s : DatabaseSettings) (h : Host) : Except SecretError (Option Text) :=
  if s.mode.isProduction then
    match s.passwordFile, s.passwordVariable with
    | some path, _ => passwordIn (filePassword h) path
    | none, some name => passwordIn (variablePassword h) name
    | none, none => s.addressPassword
  else s.addressPassword

/-- The text of the address with the password, which replaces another one if it is not empty. -/
def connectionString (s : DatabaseSettings) (h : Host) : Except SecretError Text := do
  let address ← s.address
  let password ← s.password h
  let address :=
    match Text.filled? password with
    | some p => { address with password := some p }
    | none => address
  address.render.mapError .url

end DatabaseSettings

end Registry
