import Registry.Value

/-!
# The recursion limit

Nested data are written, read and copied by calls inside each other, of which the interpreter allows
no more than `recursionLimit`. How many of them stand around an operation is up to its caller:
`callsAround` is what is assumed here, and `callsLeft` is left for the data. A level of a JSON
document takes one call and a level of a YAML document two; what copying takes depends on the
containers and is counted by `Value.copyCalls`.
-/

namespace Registry

/-- The calls that the interpreter allows inside each other. -/
def recursionLimit : Nat := 1000

/-- The calls that are assumed around the first one that goes into nested data. -/
def callsAround : Nat := 50

def callsLeft : Nat := recursionLimit - callsAround

namespace Value

mutual

/-- The calls inside each other that copying a value with all that is in it takes. A list or a
mapping is copied by two calls around those for its parts and around a last one, a tuple by three
around those for its parts. -/
def copyCalls : Value → Nat
  | list items => 2 + max 1 (copyCallsOfItems items)
  | tuple items => 3 + copyCallsOfItems items
  | dict entries => 2 + max 1 (copyCallsOfEntries entries)
  | _ => 2

def copyCallsOfItems : List Value → Nat
  | [] => 0
  | v :: rest => max (copyCalls v) (copyCallsOfItems rest)

/-- The most calls that a key or a value takes. -/
def copyCallsOfEntries : List (Value × Value) → Nat
  | [] => 0
  | (k, v) :: rest => max (max (copyCalls k) (copyCalls v)) (copyCallsOfEntries rest)

end

end Value

end Registry
