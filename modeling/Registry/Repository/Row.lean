import Registry.Identity
import Registry.Session

/-!
# Rows and identities

How an identity is stored as a row and a row is read as an identity. Texts are stored as they are,
dates as texts without offset and metadata as a document. Reading has two steps: the dates of a row
are read when it is fetched (`fetch`), everything else when an identity is made of it
(`toIdentity`).
-/

namespace Registry

def textCell (t : Text) : Cell := .text t

/-- The cell of an optional reading at UTC. -/
def utcCell : Option UtcTime → Cell
  | none => .null
  | some u => .text (storedText u.date u.time)

/-- The row of an identity whose metadata have a document. -/
def Identity.toRow (i : Identity) (document : Text) : Row
  | .identityId => .text i.id
  | .detail d => .text (i.detail d)
  | .dob => utcCell i.dob
  | .createdAt => utcCell i.createdAt
  | .metadata => .text document

/-- A row whose dates have been read. -/
abbrev Record := Column → Value

namespace Row

/-- Reads the cell of a date, which is nothing or a text. -/
def fetchDate : Cell → Except Cause Value
  | .null => .ok .null
  | .text t =>
    match Iso.read t with
    | .ok d => .ok (.dateTime d)
    | .error e => .error (.date e)
  | _ => .error .dateKind

/-- Reads the dates of a row. -/
def fetch (r : Row) : Except Cause Record := do
  let dob ← fetchDate (r .dob)
  let createdAt ← fetchDate (r .createdAt)
  return fun
    | .dob => dob
    | .createdAt => createdAt
    | c => (r c).toValue

end Row

namespace Record

/-- The inputs of the identity of a record whose metadata have been decoded. -/
def inputs (r : Record) (metadata : Value) : Inputs :=
  Column.all.map fun c =>
    (Text.ofString c.name, if c = .metadata then metadata else r c)

def toIdentity (r : Record) : Except Cause Identity :=
  match Metadata.decode (r .metadata) with
  | .error e => .error (.metadata e)
  | .ok m => (Identity.ofInputs (inputs r m)).mapError .input

end Record

end Registry
