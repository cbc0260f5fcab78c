import Registry.DateTime.Pattern
import Registry.Refusal
import Registry.Value.Shown

/-!
# Members of values

What a value has under a name: its parts, such as the year of a date; its kind; and what it can do,
of which only the name matters here. `Member.get?` looks a name up and `Member.item` an index or a
key. `Value.refusal` says why a member cannot be set: no value can be changed that way.
-/

namespace Registry

/-- What stands under a name: a value, a kind of values, or a thing that is no value, with the name
of its kind and how it is shown. A clock gives the time in any form. -/
inductive Member
  | value (v : Value)
  | kind (name : String)
  | thing (kindName : String) (shown plain : Text)
  | clock

namespace Value

/-! ## Names -/

def commonOperations : List String :=
  ["__delattr__", "__dir__", "__eq__", "__format__", "__ge__", "__getattribute__", "__getstate__",
    "__gt__", "__hash__", "__init__", "__init_subclass__", "__le__", "__lt__", "__ne__", "__new__",
    "__reduce__", "__reduce_ex__", "__repr__", "__setattr__", "__sizeof__", "__str__",
    "__subclasshook__"]

def numberOperations : List String :=
  ["__abs__", "__add__", "__bool__", "__ceil__", "__divmod__", "__float__", "__floor__",
    "__floordiv__", "__getnewargs__", "__int__", "__mod__", "__mul__", "__neg__", "__pos__",
    "__pow__", "__radd__", "__rdivmod__", "__rfloordiv__", "__rmod__", "__rmul__", "__round__",
    "__rpow__", "__rsub__", "__rtruediv__", "__sub__", "__truediv__", "__trunc__",
    "as_integer_ratio", "conjugate"]

/-- What only integers can do. -/
def integerOperations : List String :=
  ["__and__", "__index__", "__invert__", "__lshift__", "__or__", "__rand__", "__rlshift__",
    "__ror__", "__rrshift__", "__rshift__", "__rxor__", "__xor__", "bit_count", "bit_length",
    "from_bytes", "to_bytes"]

/-- What sequences of code points or octets can do. -/
def stringOperations : List String :=
  ["__add__", "__contains__", "__getitem__", "__getnewargs__", "__iter__", "__len__", "__mod__",
    "__mul__", "__rmod__", "__rmul__", "capitalize", "center", "count", "endswith", "expandtabs",
    "find", "index", "isalnum", "isalpha", "isascii", "isdigit", "islower", "isspace", "istitle",
    "isupper", "join", "ljust", "lower", "lstrip", "maketrans", "partition", "removeprefix",
    "removesuffix", "replace", "rfind", "rindex", "rjust", "rpartition", "rsplit", "rstrip",
    "split", "splitlines", "startswith", "strip", "swapcase", "title", "translate", "upper",
    "zfill"]

def dateOperations : List String :=
  ["__add__", "__radd__", "__rsub__", "__sub__", "ctime", "fromisocalendar", "fromisoformat",
    "fromordinal", "fromtimestamp", "isocalendar", "isoformat", "isoweekday", "replace",
    "strftime", "timetuple", "today", "toordinal", "weekday"]

def listOperations : List String :=
  ["__add__", "__class_getitem__", "__contains__", "__delitem__", "__getitem__", "__iadd__",
    "__imul__", "__iter__", "__len__", "__mul__", "__reversed__", "__rmul__", "__setitem__",
    "append", "clear", "copy", "count", "extend", "index", "insert", "pop", "remove", "reverse",
    "sort"]

def operations : Value → List String
  | null => ["__bool__"]
  | bool _ => numberOperations ++ integerOperations
  | int _ => numberOperations ++ integerOperations
  | float _ => numberOperations ++ ["__getformat__", "fromhex", "hex", "is_integer"]
  | text _ =>
    stringOperations ++ ["casefold", "encode", "format", "format_map", "isdecimal", "isidentifier",
      "isnumeric", "isprintable"]
  | bytes _ => stringOperations ++ ["__bytes__", "decode", "fromhex", "hex"]
  | list _ => listOperations
  | enclosing _ => listOperations
  | tuple _ =>
    ["__add__", "__class_getitem__", "__contains__", "__getitem__", "__getnewargs__", "__iter__",
      "__len__", "__mul__", "__rmul__", "count", "index"]
  | dict _ =>
    ["__class_getitem__", "__contains__", "__delitem__", "__getitem__", "__ior__", "__iter__",
      "__len__", "__or__", "__reversed__", "__ror__", "__setitem__", "clear", "copy", "fromkeys",
      "get", "items", "keys", "pop", "popitem", "setdefault", "update", "values"]
  | dateTime _ =>
    dateOperations ++ ["astimezone", "combine", "date", "dst", "now", "strptime", "time",
      "timestamp", "timetz", "tzname", "utcfromtimestamp", "utcnow", "utcoffset", "utctimetuple"]
  | date _ => dateOperations
  | other .set =>
    ["__and__", "__class_getitem__", "__contains__", "__iand__", "__ior__", "__isub__", "__iter__",
      "__ixor__", "__len__", "__or__", "__rand__", "__ror__", "__rsub__", "__rxor__", "__sub__",
      "__xor__", "add", "clear", "copy", "difference", "difference_update", "discard",
      "intersection", "intersection_update", "isdisjoint", "issubset", "issuperset", "pop",
      "remove", "symmetric_difference", "symmetric_difference_update", "union", "update"]
  | other (.object _) => []
  | other .complex =>
    ["__abs__", "__add__", "__bool__", "__complex__", "__getnewargs__", "__mul__", "__neg__",
      "__pos__", "__pow__", "__radd__", "__rmul__", "__rpow__", "__rsub__", "__rtruediv__",
      "__sub__", "__truediv__", "conjugate"]

def isListed (name : Text) (names : List String) : Bool :=
  names.any fun n => Text.ofString n == name

/-! ## Parts -/

/-- The parts of an integer. -/
def integerParts (n : Int) : List (String × Member) :=
  [("denominator", .value (int 1)), ("imag", .value (int 0)), ("numerator", .value (int n)),
    ("real", .value (int n))]

/-- The parts of a date, and the first and the last one. -/
def dateParts (d : Date) : List (String × Member) :=
  [("day", .value (int d.day)), ("month", .value (int d.month)), ("year", .value (int d.year))]

/-- The time zone of a clock. -/
def zoneMember : Option Offset → Member
  | none => .value null
  | some o => .thing "datetime.timezone" o.shown (Pattern.zoneText o)

/-- The least difference between dates with a time. -/
def microsecondMember : Member :=
  .thing "datetime.timedelta" "datetime.timedelta(microseconds=1)" "0:00:00.000001"

/-- The least difference between dates. -/
def dayMember : Member :=
  .thing "datetime.timedelta" "datetime.timedelta(days=1)" "1 day, 0:00:00"

def firstDate : Date := ⟨1, 1, 1, by decide⟩

def lastDate : Date := ⟨9999, 12, 31, by decide⟩

def lastTime : TimeOfDay := ⟨23, 59, 59, 999999, by decide⟩

def parts : Value → List (String × Member)
  | bool b => integerParts (if b then 1 else 0)
  | int n => integerParts n
  | float x => [("imag", .value (float 0)), ("real", .value (float x))]
  | dateTime d =>
    dateParts d.date ++
      [("hour", .value (int d.time.hour)), ("minute", .value (int d.time.minute)),
        ("second", .value (int d.time.second)), ("microsecond", .value (int d.time.microsecond)),
        ("fold", .value (int 0)), ("tzinfo", zoneMember d.offset)]
  | date d => dateParts d
  | other .complex => [("imag", .value (float 1)), ("real", .value (float 0))]
  | _ => []

/-- What all values of the kind of a value have in common. -/
def sharedParts : Value → List (String × Member)
  | dateTime _ =>
    [("max", .value (dateTime ⟨lastDate, lastTime, none⟩)),
      ("min", .value (dateTime ⟨firstDate, TimeOfDay.midnight, none⟩)),
      ("resolution", microsecondMember)]
  | date _ =>
    [("max", .value (date lastDate)), ("min", .value (date firstDate)), ("resolution", dayMember)]
  | _ => []

/-- The member of a list of named ones. -/
def memberOf? (name : Text) (members : List (String × Member)) : Option Member :=
  (members.find? fun (n, _) => Text.ofString n == name).map (·.2)

/-- What a value has under a name. -/
def member? (v : Value) (name : Text) : Option Member :=
  if name = Text.ofString "__class__" then some (.kind v.qualifiedKindName)
  else
    match memberOf? name (v.parts ++ v.sharedParts) with
    | some m => some m
    | none =>
      if isListed name ("__doc__" :: commonOperations ++ v.operations) then
        let internal := name.head?.any (CodePoint.is · '_')
        let kind := if internal then "method-wrapper" else "builtin_function_or_method"
        some (.thing kind name name)
      else none

/-! ## Setting members -/

/-- The kind that a part belongs to: the date of a date with a time is a date, and a truth value has
the parts of an integer. -/
def partOwner (v : Value) (name : Text) : String :=
  match v with
  | bool _ => "int"
  | dateTime _ =>
    if isListed name ["day", "month", "year"] then "datetime.date" else "datetime.datetime"
  | v => v.qualifiedKindName

/-- Why a member of a value cannot be set. -/
def refusal (v : Value) (name : Text) : Refusal :=
  let object := "'" ++ v.qualifiedKindName ++ "' object"
  if (memberOf? name v.parts).isSome then
    if v = other .complex then ⟨.attribute, "readonly attribute"⟩
    else
      ⟨.attribute, Text.ofString "attribute '" ++ name
        ++ Text.ofString ("' of '" ++ v.partOwner name ++ "' objects is not writable")⟩
  else if (v.member? name).isSome then
    ⟨.attribute, Text.ofString (object ++ " attribute '") ++ name
      ++ Text.ofString "' is read-only"⟩
  else Refusal.noAttribute object name

end Value

/-! ## Members of members -/

namespace Member

def kindName : Member → String
  | value v => v.qualifiedKindName
  | kind _ => "type"
  | thing k _ _ => k
  | clock => "FileDateFormatter"

def shown : Member → Text
  | value v => v.shown
  | kind name => Text.ofString ("<class '" ++ name ++ "'>")
  | thing _ shown _ => shown
  | clock => "now"

def plainText : Member → Text
  | value v => v.plainText
  | thing _ _ plain => plain
  | m => m.shown

/-- The last part of a dotted name. -/
def shortName (name : String) : Text :=
  ((Text.splitOn (CodePoint.ofChar '.') (Text.ofString name)).getLast?).getD []

/-- What a member has under a name. -/
def get? (m : Member) (name : Text) : Option Member :=
  match m with
  | value v => v.member? name
  | kind k =>
    if Value.isListed name ["__name__", "__qualname__"] then some (value (.text (shortName k)))
    else if name = Text.ofString "__class__" then some (kind "type")
    else none
  | thing k shown _ =>
    if name = Text.ofString "__class__" then some (kind k)
    else if name = Text.ofString "__name__" then some (value (.text shown))
    else none
  | clock => if name = Text.ofString "datetime" then some clock else none

/-- How a member is described where it has nothing under a name. -/
def description : Member → String
  | kind k => "type object '" ++ k ++ "'"
  | m => "'" ++ m.kindName ++ "' object"

/-- What a member has under a name. -/
def get (m : Member) (name : Text) : Except Refusal Member :=
  match m.get? name with
  | some m => .ok m
  | none => .error (Refusal.noAttribute m.description name)

/-- An item that refers to the sequence around it is that sequence. -/
def itemOf (sequence : Value) : Value → Member
  | .enclosing 0 => value sequence
  | v => value v

/-- The refusal of a text as an index of a kind of sequence. -/
def textIndex (sequence : String) : Refusal :=
  Refusal.kind (sequence ++ " indices must be integers or slices, not str")

/-- What stands at an index or under a key: an index is a number, a key any text. -/
def item (m : Member) (key : Nat ⊕ Text) : Except Refusal Member :=
  let at? (items : List Value) (sequence : Value) (i : Nat) (fault : String) :=
    match items[i]? with
    | some v => Except.ok (itemOf sequence v)
    | none => .error (Refusal.mk .index (Text.ofString fault))
  match m, key with
  | value (.list vs), .inl i => at? vs (.list vs) i "list index out of range"
  | value (.list _), .inr _ => .error (textIndex "list")
  | value (.tuple vs), .inl i => at? vs (.tuple vs) i "tuple index out of range"
  | value (.tuple _), .inr _ => .error (textIndex "tuple")
  | value (.text t), .inl i =>
    at? (t.map fun c => .text [c]) (.text t) i "string index out of range"
  | value (.text _), .inr _ => .error (Refusal.kind "string indices must be integers, not 'str'")
  | value (.bytes b), .inl i =>
    at? (b.map fun x => .int x.toNat) (.bytes b) i "index out of range"
  | value (.bytes _), .inr _ => .error (textIndex "byte")
  | value (.dict entries), key =>
    let key : Value := match key with
      | .inl i => .int i
      | .inr t => .text t
    match Value.lookup? key entries with
    | some v => .ok (itemOf (.dict entries) v)
    | none => .error ⟨.key, key.shown⟩
  | kind k, _ => .error (Refusal.kind ("type '" ++ k ++ "' is not subscriptable"))
  | m, _ => .error (Refusal.kind ("'" ++ m.kindName ++ "' object is not subscriptable"))

/-- Why what a member has under a name cannot be set. -/
def refusal (m : Member) (name : Text) : Refusal :=
  match m with
  | value v => v.refusal name
  | kind k =>
    ⟨.type, Text.ofString "cannot set '" ++ name
      ++ Text.ofString ("' attribute of immutable type '" ++ k ++ "'")⟩
  | m => Refusal.noAttribute m.description name

/-- Why nothing can be set at the end of a way of names. -/
def refusalAt (m : Member) : List Text → Refusal
  | [] => m.refusal []
  | [name] => m.refusal name
  | name :: rest =>
    match m.get name with
    | .ok m => m.refusalAt rest
    | .error r => r

end Member

end Registry
