import Registry.DateTime.Iso
import Registry.Text.Integer

/-!
# Faults of documents

What can be wrong with a document. Most of it makes the document malformed, and no more is said
about it. The rest is about a single scalar that does not mean what its form or its tag promises,
and about nesting that is too deep.
-/

namespace Registry

/-- What is wrong with a document. -/
inductive YamlFault
  | malformed
  | nesting
  | codePoint (number : Nat)
  | integer (e : IntegerError)
  | emptyNumber
  | float (t : Text)
  | largeFloat
  | truth (t : Text)
  | timestamp
  | timestampKind
  | date (e : IsoError)
deriving DecidableEq

namespace YamlFault

inductive Group
  | syntactic
  | recursion
  | value
  | size
  | index
  | key
  | attribute
  | type
deriving DecidableEq

def group : YamlFault → Group
  | malformed => .syntactic
  | nesting => .recursion
  | codePoint n => if n < 0x80000000 then .value else .size
  | integer _ => .value
  | emptyNumber => .index
  | float _ => .value
  | largeFloat => .size
  | truth _ => .key
  | timestamp => .attribute
  | timestampKind => .type
  | date _ => .value

/-- The wording of a fault, if it has one of its own. -/
def message? : YamlFault → Option Text
  | malformed => none
  | nesting => none
  | codePoint n =>
    some (Text.ofString (if n < 0x80000000 then "chr() arg not in range(0x110000)"
      else "Python int too large to convert to C int"))
  | integer e => some e.message
  | emptyNumber => some (Text.ofString "string index out of range")
  | float t => some (Text.ofString "could not convert string to float: " ++ t.quoted)
  | largeFloat => some (Text.ofString "int too large to convert to float")
  | truth t => some t.quoted
  | timestamp => some (Text.ofString "'NoneType' object has no attribute 'groupdict'")
  | timestampKind => some (Text.ofString "expected string or bytes-like object, got 'list'")
  | date e => some e.message

end YamlFault

end Registry
