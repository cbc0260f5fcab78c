import Registry.Text.Uppercase

/-!
# Environments

An environment is a list of variables in the order in which they were set. The variables of the
active deployment environment override others: with the mode `test`, `TEST_NAME` is copied to
`NAME`. All sources are read before the first target is set.
-/

namespace Registry

/-- Named texts, no name twice. -/
abbrev Environment := List (Text × Text)

namespace Environment

def get? (env : Environment) (name : Text) : Option Text :=
  (env.find? fun (n, _) => n == name).map (·.2)

/-- Sets a variable: the one that is there, or a new one at the end. -/
def set (env : Environment) (name value : Text) : Environment :=
  match env with
  | [] => [(name, value)]
  | (n, v) :: rest => if n = name then (n, value) :: rest else (n, v) :: set rest name value

/-- The beginning of the names that a mode overrides with. -/
def overridePrefix (mode : Text) : Text := mode.upper ++ Text.ofString "_"

/-- The targets and values of the overrides of a mode. -/
def overrides (env : Environment) (mode : Text) : List (Text × Text) :=
  env.filterMap fun (name, value) =>
    (Text.dropPrefix? (overridePrefix mode) name).map fun target => (target, value)

/-- Sets variables one after the other; a variable without a name cannot be set, and ends it. The
second part tells whether all were set. -/
def setAll (env : Environment) : List (Text × Text) → Environment × Bool
  | [] => (env, true)
  | (name, value) :: rest => if name.isEmpty then (env, false) else setAll (env.set name value) rest

/-- The environment with the overrides of a mode, and whether all could be set. -/
def applyOverrides (env : Environment) (mode : Text) : Environment × Bool :=
  env.setAll (env.overrides mode)

/-- The variables in the order of their names. -/
def sorted (env : Environment) : Environment := env.mergeSort fun a b => Text.le a.1 b.1

end Environment

end Registry
