import Registry.Binary64
import Registry.DateTime
import Registry.Text.Encoding

/-!
# Values

The values that callers hand to the registry and that documents hold. A mapping keeps its entries in
order and holds no key twice (`Value.dictOf`); a key is the same as another one if it equals it or is
the same object (`Value.sameKey`), so what equals nothing, a nan or an object without content, has a
number for the object that it is. `Value.enclosing` refers to a container around the place where it
stands: a container that holds itself is a tree with such a reference.
-/

namespace Registry

/-- Other values: the set of the number one, objects without content, told apart by numbers, and the
imaginary unit. -/
inductive OtherKind
  | set
  | object (number : Nat)
  | complex
deriving DecidableEq

inductive Value
  | null
  | bool (b : Bool)
  | int (n : Int)
  | float (x : Binary64)
  | text (t : Text)
  | bytes (b : Octets)
  | list (items : List Value)
  | tuple (items : List Value)
  | dict (entries : List (Value × Value))
  | dateTime (d : DateTime)
  | date (d : Date)
  | other (kind : OtherKind)
  | enclosing (levels : Nat)

namespace Value

instance : Inhabited Value := ⟨null⟩

mutual

def same : Value → Value → Bool
  | null, null => true
  | bool a, bool b => a == b
  | int a, int b => a == b
  | float a, float b => a == b
  | text a, text b => a == b
  | bytes a, bytes b => a == b
  | list a, list b => sameList a b
  | tuple a, tuple b => sameList a b
  | dict a, dict b => sameEntries a b
  | dateTime a, dateTime b => a == b
  | date a, date b => a == b
  | other a, other b => a == b
  | enclosing a, enclosing b => a == b
  | _, _ => false

def sameList : List Value → List Value → Bool
  | [], [] => true
  | v :: vs, w :: ws => same v w && sameList vs ws
  | _, _ => false

def sameEntries : List (Value × Value) → List (Value × Value) → Bool
  | [], [] => true
  | (k, v) :: es, (l, w) :: fs => same k l && same v w && sameEntries es fs
  | _, _ => false

end

mutual

theorem same_iff : (v w : Value) → same v w = true ↔ v = w
  | null, w => by cases w <;> simp [same]
  | bool _, w => by cases w <;> simp [same]
  | int _, w => by cases w <;> simp [same]
  | float _, w => by cases w <;> simp [same]
  | text _, w => by cases w <;> simp [same]
  | bytes _, w => by cases w <;> simp [same]
  | list a, w => by cases w <;> simp [same, sameList_iff a]
  | tuple a, w => by cases w <;> simp [same, sameList_iff a]
  | dict a, w => by cases w <;> simp [same, sameEntries_iff a]
  | dateTime _, w => by cases w <;> simp [same]
  | date _, w => by cases w <;> simp [same]
  | other _, w => by cases w <;> simp [same]
  | enclosing _, w => by cases w <;> simp [same]

theorem sameList_iff : (vs ws : List Value) → sameList vs ws = true ↔ vs = ws
  | [], ws => by cases ws <;> simp [sameList]
  | v :: vs, ws => by cases ws <;> simp [sameList, same_iff v, sameList_iff vs]

theorem sameEntries_iff : (es fs : List (Value × Value)) → sameEntries es fs = true ↔ es = fs
  | [], fs => by cases fs <;> simp [sameEntries]
  | (k, v) :: es, fs => by
    cases fs with
    | nil => simp [sameEntries]
    | cons f fs =>
      obtain ⟨l, w⟩ := f
      simp [sameEntries, same_iff k, same_iff v, sameEntries_iff es]

end

instance : DecidableEq Value := fun v w => decidable_of_iff _ (same_iff v w)

def kindName : Value → String
  | null => "NoneType"
  | bool _ => "bool"
  | int _ => "int"
  | float _ => "float"
  | text _ => "str"
  | bytes _ => "bytes"
  | list _ => "list"
  | tuple _ => "tuple"
  | dict _ => "dict"
  | dateTime _ => "datetime"
  | date _ => "date"
  | other .set => "set"
  | other (.object _) => "object"
  | other .complex => "complex"
  | enclosing _ => "list"

/-- The name of the kind of a value, with the module that it belongs to. -/
def qualifiedKindName : Value → String
  | dateTime _ => "datetime.datetime"
  | date _ => "datetime.date"
  | v => v.kindName

/-- The integer that a value is as a key: an integer, a truth value or an integral number. -/
def keyInt? : Value → Option Int
  | bool b => some (if b then 1 else 0)
  | int n => some n
  | float x => x.toInt?
  | _ => none

/-- Two dates with times are the same key: at the same instant if both have offsets, and with the
same reading if none has one. -/
def sameMoment (d e : DateTime) : Bool :=
  match d.offset, e.offset with
  | none, none => d == e
  | some _, some _ => d.instant == e.instant
  | _, _ => false

mutual

/-- Two values are the same key. Numbers and truth values are the same if they are equal in number,
sequences if they are item by item; a nan and an object without content, which equal nothing, are
found as the objects that they are. -/
def sameKey : Value → Value → Bool
  | tuple a, tuple b => sameKeys a b
  | dateTime a, dateTime b => sameMoment a b
  | k, l =>
    match k.keyInt?, l.keyInt? with
    | some a, some b => a == b
    | none, none => k == l
    | _, _ => false

/-- Two sequences are the same keys item by item. -/
def sameKeys : List Value → List Value → Bool
  | [], [] => true
  | k :: ks, l :: ls => sameKey k l && sameKeys ks ls
  | _, _ => false

end

/-- Puts a value under a key: over the value that is there, or as the last entry. -/
def put (entries : List (Value × Value)) (k v : Value) : List (Value × Value) :=
  match entries with
  | [] => [(k, v)]
  | (l, w) :: rest => if l.sameKey k then (l, v) :: rest else (l, w) :: put rest k v

/-- The mapping of a list of entries: the last value of each key, at the place of the first. -/
def dictOf (entries : List (Value × Value)) : Value :=
  dict (entries.foldl (fun done (k, v) => put done k v) [])

def lookup? (k : Value) : List (Value × Value) → Option Value
  | [] => none
  | (l, v) :: rest => if l.sameKey k then some v else lookup? k rest

end Value

end Registry
