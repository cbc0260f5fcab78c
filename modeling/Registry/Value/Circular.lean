import Registry.Value

/-!
# Values that hold themselves

A value is circular if a container in it refers to itself or to one around it. The parts of such a
value cannot be written one after the other.
-/

namespace Registry.Value

mutual

/-- A container in the value refers to one around it. -/
def isCircular : Value → Bool
  | enclosing _ => true
  | list items => anyCircular items
  | tuple items => anyCircular items
  | dict entries => anyEntryCircular entries
  | _ => false

def anyCircular : List Value → Bool
  | [] => false
  | v :: rest => isCircular v || anyCircular rest

/-- Some key or value of a list of entries is circular. -/
def anyEntryCircular : List (Value × Value) → Bool
  | [] => false
  | (k, v) :: rest => isCircular k || isCircular v || anyEntryCircular rest

end

example : isCircular (list [enclosing 0]) = true := rfl

example : isCircular (list [int 1, tuple [null]]) = false := rfl

end Registry.Value
