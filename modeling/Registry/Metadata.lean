import Registry.Json.Reader
import Registry.Json.Writer

/-!
# Metadata

Annotations of an identity are stored as a JSON document: an object, or `null` for none. `encode`
writes them and `decode` reads them back, from a text or from data in any Unicode encoding.
-/

namespace Registry

/-- Why metadata cannot be written or read. -/
inductive MetadataError
  | unwritable (o : Json.Offence)
  | unreadable (e : Json.ReadError)
  | notObject (kindName : String)
deriving DecidableEq

namespace MetadataError

/-- The wording of an error. -/
def message : MetadataError → Text
  | unwritable o => Text.ofString ("metadata is not JSON serializable: " ++ o.message)
  | unreadable e => Text.ofString "stored metadata is not valid JSON: " ++ e.message
  | notObject name => Text.ofString ("stored metadata must be a JSON object, got " ++ name)

/-- Metadata nested too deeply are refused by a fault of their own. -/
def isNesting : MetadataError → Bool
  | unwritable .nesting => true
  | unreadable .nesting => true
  | _ => false

end MetadataError

namespace Metadata

def encode (v : Value) : Except MetadataError Text := (Json.write v).mapError .unwritable

/-- The metadata of a document, which is an object or `null`. -/
def ofDocument : Value → Except MetadataError Value
  | .null => .ok .null
  | .dict entries => .ok (.dict entries)
  | v => .error (.notObject v.kindName)

/-- The metadata that a stored value holds; nothing stored is none. -/
def decode : Value → Except MetadataError Value
  | .null => .ok .null
  | .text [] => .ok .null
  | .bytes [] => .ok .null
  | .text t =>
    match Json.readText t with
    | .ok v => ofDocument v
    | .error e => .error (.unreadable e)
  | .bytes b =>
    match Json.readBytes b with
    | .ok v => ofDocument v
    | .error e => .error (.unreadable e)
  | v => .error (.unreadable (.kind v.kindName))

end Metadata

end Registry
