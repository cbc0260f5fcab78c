import Registry.Text

/-!
# Refusals

Why a value cannot be used the way it was asked for: the sort of the error, and its wording. Values
are refused where they are of no kind that an operation works on, which nothing rules out for values
that were put in place without being read.
-/

namespace Registry

inductive ErrorSort
  | type
  | value
  | index
  | key
  | attribute
  | overflow
  | memory
  | encoding
deriving DecidableEq

/-- Why a value cannot be used. -/
structure Refusal where
  sort : ErrorSort
  message : Text
deriving DecidableEq

namespace Refusal

def kind (message : String) : Refusal := ⟨.type, Text.ofString message⟩

def size (message : String) : Refusal := ⟨.overflow, Text.ofString message⟩

/-- A refusal of a value for what it is. -/
def value (message : String) : Refusal := ⟨.value, Text.ofString message⟩

/-- There is nothing under a name at something of a description. -/
def noAttribute (owner : String) (name : Text) : Refusal :=
  ⟨.attribute,
    Text.ofString owner ++ Text.ofString " has no attribute '" ++ name ++ Text.ofString "'"⟩

/-- A name of a record stands for what is worked out of its fields, and cannot be set. -/
def noSetter (owner name : Text) : Refusal :=
  ⟨.attribute, Text.ofString "property '" ++ name ++ Text.ofString "' of '" ++ owner
    ++ Text.ofString "' object has no setter"⟩

/-- The names of what is worked out of the fields of any record. -/
def workedOut : List Text := ["model_extra", "model_fields_set"]

end Refusal

end Registry
