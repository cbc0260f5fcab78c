import Registry.Text

/-!
# Columns of the identity table

An identity is described by texts, its details, and has a date of birth, an id, a time of creation
and metadata. `Column.all` lists the columns in their canonical order, `Column.updatable` those that
an update may change, the metadata apart.
-/

namespace Registry

/-- A descriptive text of an identity. -/
inductive Detail
  | identityType
  | firstName
  | lastName
  | otherNames
  | gender
  | emailAddress
  | phoneNumber
  | nationality
  | organizationName
  | category
  | street
  | country
  | state
  | postCode
  | city
deriving DecidableEq

inductive Column
  | identityId
  | detail (a : Detail)
  | dob
  | createdAt
  | metadata
deriving DecidableEq

/-- The type of a column, as statements name it. -/
inductive ColumnType
  | varchar (length : Nat)
  | dateTime
  | text
deriving DecidableEq

def ColumnType.name : ColumnType → String
  | varchar n => s!"VARCHAR({n})"
  | dateTime => "DATETIME"
  | text => "TEXT"

namespace Detail

def name : Detail → String
  | identityType => "identity_type"
  | firstName => "first_name"
  | lastName => "last_name"
  | otherNames => "other_names"
  | gender => "gender"
  | emailAddress => "email_address"
  | phoneNumber => "phone_number"
  | nationality => "nationality"
  | organizationName => "organization_name"
  | category => "category"
  | street => "street"
  | country => "country"
  | state => "state"
  | postCode => "post_code"
  | city => "city"

/-- The length that a detail's column is declared with. -/
def length : Detail → Nat
  | identityType => 64
  | gender => 32
  | phoneNumber => 64
  | nationality => 64
  | country => 64
  | state => 64
  | postCode => 32
  | _ => 255

end Detail

namespace Column

/-- The columns that an update may change, in canonical order; metadata come after them. -/
def updatable : List Column :=
  [detail .identityType, detail .firstName, detail .lastName, detail .otherNames,
    detail .gender, dob, detail .emailAddress, detail .phoneNumber, detail .nationality,
    detail .organizationName, detail .category, detail .street, detail .country,
    detail .state, detail .postCode, detail .city]

/-- All columns, in canonical order. -/
def all : List Column := identityId :: updatable ++ [createdAt, metadata]

def name : Column → String
  | identityId => "identity_id"
  | detail a => a.name
  | dob => "dob"
  | createdAt => "created_at"
  | metadata => "meta_data"

def type : Column → ColumnType
  | identityId => .varchar 64
  | detail a => .varchar a.length
  | dob => .dateTime
  | createdAt => .dateTime
  | metadata => .text

/-- Only the date of birth may be absent. -/
def isNullable (c : Column) : Bool := c == dob

def ofName? (t : Text) : Option Column := all.find? fun c => Text.ofString c.name == t

theorem mem_all (c : Column) : c ∈ all := by
  cases c with
  | detail a => cases a <;> decide
  | _ => decide

end Column

end Registry
