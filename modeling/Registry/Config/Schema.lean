import Registry.Field

/-!
# The settings of a configuration

A configuration has three sections, and every section its settings: what values a setting takes and
which one it has when none is given.
-/

namespace Registry

inductive Section
  | logging
  | database
  | app
deriving DecidableEq

inductive SettingKind
  | text
  | optionalText
  | word (words : List Text)
  | int
  | positiveFloat

/-- A setting with its name, what it takes and its value when none is given. -/
structure Setting where
  name : Text
  kind : SettingKind
  default : Value

def SettingKind.read : SettingKind → Value → Except FieldFault Value
  | text, v => (Field.text v).map .text
  | optionalText, .null => .ok .null
  | optionalText, v => (Field.text v).map .text
  | word words, v => (Field.word words v).map .text
  | int, v => (Field.int v).map .int
  | positiveFloat, v => (Field.positiveFloat v).map .float

/-- The fault of a whole section in the place of a setting. -/
def SettingKind.kindFault : SettingKind → FieldFault
  | text => .textKind
  | optionalText => .textKind
  | word _ => .notListed
  | int => .intKind
  | positiveFloat => .floatKind

def deployments : List Text := ["development", "production", "test"]

/-- The address of a database when none is given. -/
def standardUrl : Text := "sqlite:///./identity.db"

namespace Section

def all : List Section := [logging, database, app]

def name : Section → Text
  | logging => "logging"
  | database => "database"
  | app => "app"

def modelName : Section → String
  | logging => "LoggingConfig"
  | database => "DatabaseConfig"
  | app => "AppConfig"

def settings : Section → List Setting
  | logging =>
    [⟨"level", .text, .text (Text.ofString "INFO")⟩,
      ⟨"format", .word ["json", "plain"], .text (Text.ofString "plain")⟩,
      ⟨"file", .optionalText, .null⟩,
      ⟨"max_size_mb", .int, .int 10⟩,
      ⟨"backup_count", .int, .int 5⟩]
  | database =>
    [⟨"url", .text, .text standardUrl⟩,
      ⟨"pool_size", .int, .int 20⟩,
      ⟨"max_overflow", .int, .int 10⟩,
      ⟨"pool_timeout", .int, .int 30⟩,
      ⟨"pool_recycle", .int, .int 1800⟩,
      ⟨"read_timeout_seconds", .positiveFloat, .float 60⟩,
      ⟨"environment_mode", .word deployments, .text (Text.ofString "development")⟩,
      ⟨"password_env_var", .optionalText, .null⟩,
      ⟨"password_file", .optionalText, .null⟩]
  | app =>
    [⟨"name", .text, .text (Text.ofString "identity-store")⟩,
      ⟨"environment", .word deployments, .text (Text.ofString "development")⟩]

def ofName? (t : Text) : Option Section := all.find? fun s => s.name == t

end Section

end Registry
