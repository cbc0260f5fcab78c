import Registry.Yaml.Merge
import Registry.Yaml.Scalar

/-!
# Documents

The values of the nodes of a document. A node has one value, however often it occurs. The value of a
container is found when something refers to it, and filled later, one container after the other in
the order in which they were found; the first fault in this order is the fault of the document.
Values refer to what is inside them by numbers of nodes, so a container can be inside itself;
`Document.value` spells them out to a given depth.
-/

namespace Registry.Yaml

/-- The value of a node: complete, or a container of nodes. Keys are complete. -/
inductive Cell
  | leaf (v : Value)
  | list (items : List Nat)
  | pairs (entries : List (Nat × Nat))
  | dict (entries : List (Value × Nat))
  | set (keys : List Value)

/-- Values that are being found: the nodes, the values by the numbers of nodes, and the containers
that are not filled yet, the last one first. -/
structure Filling where
  graph : Graph
  cells : Array (Option Cell)
  waiting : List Nat

namespace Filling

/-- What is found, and the filling after it. -/
abbrev Fill (α : Type) := StateT Filling (Except YamlFault) α

def nodeOf (n : Nat) : Fill Node := return (← get).graph.node n

/-- The value of a node, if it is found. -/
def cell? (n : Nat) : Fill (Option Cell) := return ((← get).cells[n]?).join

def setCell (n : Nat) (c : Cell) : Fill Unit :=
  modify fun f => { f with cells := f.cells.set! n (some c) }

/-- Finds a container, to be filled later. -/
def await (n : Nat) (c : Cell) : Fill Unit := do
  setCell n c
  modify fun f => { f with waiting := n :: f.waiting }

/-- The text of a scalar; a mapping has the text of its entry `=`. -/
def scalarText : (fuel : Nat) → (g : Graph) → (n : Nat) → Except YamlFault Text
  | 0, _, _ => .error .nesting
  | fuel + 1, g, n =>
    match (g.node n).content with
    | .scalar t => .ok t
    | .sequence _ => .error .malformed
    | .mapping entries =>
      match entries.find? fun (k, _) => (g.node k).kind = .value with
      | some (_, v) => scalarText fuel g v
      | none => .error .malformed

/-- The value of a node of one of the kinds of scalars. -/
def scalarValue (g : Graph) (n : Nat) : Except YamlFault Value := do
  let node := g.node n
  let t ← scalarText (g.size + 1) g n
  match node.kind, node.content with
  | .timestamp, .mapping _ => .error .timestampKind
  | kind, _ => Scalar.value (n + 1) kind t

/-- Finds the value of a node. -/
def visit (n : Nat) : Fill Unit := do
  if (← cell? n).isSome then return ()
  match (← nodeOf n).kind with
  | .sequence => await n (.list [])
  | .mapping => await n (.dict [])
  | .set => await n (.set [])
  | .orderedMapping => await n (.pairs [])
  | .pairs => await n (.pairs [])
  | .merge => throw .malformed
  | .value => throw .malformed
  | .unknown => throw .malformed
  | _ => setCell n (.leaf (← scalarValue (← get).graph n))

/-- Finds the value of a key, which cannot be a container. -/
def visitKey (n : Nat) : Fill Value := do
  visit n
  match ← cell? n with
  | some (.leaf v) => return v
  | _ => throw .malformed

/-- Finds the keys and values of the entries of a mapping. -/
def visitEntries (n : Nat) : Fill (List (Value × Nat)) := do
  let graph ← (← get).graph.mergeInto n
  modify fun f => { f with graph := graph }
  (graph.entries n).mapM fun (k, v) => do
    let key ← visitKey k
    visit v
    return (key, v)

/-- Finds the two values of a mapping of one entry. -/
def visitPair (n : Nat) : Fill (Nat × Nat) := do
  match (← nodeOf n).content with
  | .mapping [(k, v)] =>
    visit k
    visit v
    return (k, v)
  | _ => throw .malformed

def fill (n : Nat) : Fill Unit := do
  let node ← nodeOf n
  match node.kind, node.content with
  | .sequence, .sequence items =>
    items.forM visit
    setCell n (.list items)
  | .mapping, .mapping _ => setCell n (.dict (← visitEntries n))
  | .set, .mapping _ => setCell n (.set ((← visitEntries n).map (·.1)))
  | .orderedMapping, .sequence items => setCell n (.pairs (← items.mapM visitPair))
  | .pairs, .sequence items => setCell n (.pairs (← items.mapM visitPair))
  | _, _ => throw .malformed

/-- Fills the containers that wait, and then those that were found by that, and so on. -/
def fillAll : (fuel : Nat) → Fill Unit
  | 0 => return ()
  | fuel + 1 => do
    let waiting := (← get).waiting.reverse
    if !waiting.isEmpty then
      modify fun f => { f with waiting := [] }
      waiting.forM fill
      fillAll fuel

end Filling

/-- The values of a document by the numbers of nodes, and the number of its own node. -/
structure Document where
  cells : Array (Option Cell)
  root : Nat

namespace Document

/-- The value of a node. -/
def cell (d : Document) (n : Nat) : Cell := (d.cells[n]?).join.getD (.leaf .null)

/-- The value of a node, spelled out to a depth; what is deeper is left out. -/
def valueOf (d : Document) : (depth : Nat) → (n : Nat) → Value
  | 0, _ => .null
  | depth + 1, n =>
    match d.cell n with
    | .leaf v => v
    | .list items => .list (items.map (d.valueOf depth))
    | .pairs entries =>
      .list (entries.map fun (k, v) => .tuple [d.valueOf depth k, d.valueOf depth v])
    | .dict entries => .dictOf (entries.map fun (k, v) => (k, d.valueOf depth v))
    | .set _ => .other .set

/-- The value of a document, spelled out to a depth. -/
def value (d : Document) (depth : Nat) : Value := d.valueOf depth d.root

/-- A value that counts as nothing: zero, a truth value that is false, or something empty. -/
def isNothing : Value → Bool
  | .null => true
  | .bool b => !b
  | .int n => n = 0
  | .float x => !x.isNonzero
  | .text t => t.isEmpty
  | .bytes b => b.isEmpty
  | _ => false

/-- The value of a document counts as nothing. -/
def isEmpty (d : Document) : Bool :=
  match d.cell d.root with
  | .leaf v => isNothing v
  | .list items => items.isEmpty
  | .pairs entries => entries.isEmpty
  | .dict entries => entries.isEmpty
  | .set keys => keys.isEmpty

def ofGraph (g : Graph) (root : Nat) : Except YamlFault Document :=
  let find : Filling.Fill Unit := do
    Filling.visit root
    Filling.fillAll (g.size + 1)
  (find.run ⟨g, Array.replicate g.size none, []⟩).map fun (_, f) => ⟨f.cells, root⟩

/-- The document that a text is, unless it is one of no nodes. -/
def ofText (t : Text) : Except YamlFault (Option Document) := do
  match ← Graph.ofText t with
  | (g, some root) => return some (← ofGraph g root)
  | (_, none) => return none

end Document

end Registry.Yaml
