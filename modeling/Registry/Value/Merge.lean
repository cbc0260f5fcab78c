import Registry.Value

/-!
# Merging mappings

Two mappings are merged key by key: where both have a mapping these are merged in turn, elsewhere
the second one counts. Keys of the first keep their places, new keys come after them.
-/

namespace Registry.Value

mutual

/-- Puts the entries of a mapping over those of another. -/
def mergeEntries (base : List (Value × Value)) : List (Value × Value) → List (Value × Value)
  | [] => base
  | (k, v) :: rest => mergeEntries (put base k (mergeOver (lookup? k base) v)) rest

/-- The value of a key that has a value already, or none. -/
def mergeOver (base : Option Value) : Value → Value
  | .dict override =>
    match base with
    | some (.dict entries) => .dict (mergeEntries entries override)
    | _ => .dict override
  | v => v

end

end Registry.Value
