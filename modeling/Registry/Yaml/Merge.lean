import Registry.Yaml.Graph

/-!
# Merged mappings

An entry under the key `<<` stands for the entries of another mapping, or of several in a sequence.
They go in front of the entries of the mapping itself, and of a sequence those of the last mapping
first, so that of entries with one key the right one comes last. The key `=` is a text.
-/

namespace Registry.Yaml.Graph

/-- The entries of a mapping; another node has none. -/
def entries (g : Graph) (n : Nat) : List (Nat × Nat) :=
  match (g.node n).content with
  | .mapping entries => entries
  | _ => []

def setEntries (g : Graph) (n : Nat) (entries : List (Nat × Nat)) : Graph :=
  g.modify n fun x => { x with content := .mapping entries }

/-- The entry stands for the entries of others. -/
def isMerge (g : Graph) (entry : Nat × Nat) : Bool := (g.node entry.1).kind = .merge

/-- Makes keys `=` of entries texts. -/
def settleKeys (g : Graph) (entries : List (Nat × Nat)) : Graph :=
  entries.foldl
    (fun g (k, _) =>
      if (g.node k).kind = .value then g.modify k fun x => { x with kind := .text } else g)
    g

/-- How many entries of a graph stand for others. -/
def mergeCount (g : Graph) : Nat :=
  g.foldl
    (fun count x =>
      match x.content with
      | .mapping entries => count + entries.countP g.isMerge
      | _ => count)
    0

/-- Merges into the mapping `n` from its entry `start` on; `merged` are the entries that go in front
of it. Each entry that stands for others is removed before these are looked at, so a mapping inside
itself ends, and their number bounds the depth. -/
def mergeFrom : (fuel : Nat) → (g : Graph) → (n start : Nat) → (merged : List (Nat × Nat)) →
    Except YamlFault Graph
  | 0, _, _, _, _ => .error .malformed
  | fuel + 1, g, n, start, merged =>
    let own := g.entries n
    let passed := (own.drop start).takeWhile fun entry => !g.isMerge entry
    let index := start + passed.length
    let g := g.settleKeys passed
    match own.drop index with
    | [] => .ok (g.setEntries n (merged ++ own))
    | (_, source) :: after => do
      let g := g.setEntries n (own.take index ++ after)
      match (g.node source).content with
      | .mapping _ =>
        let g ← mergeFrom fuel g source 0 []
        mergeFrom fuel g n index (merged ++ g.entries source)
      | .sequence items =>
        let (g, parts) ← items.foldlM
          (fun (g, parts) item => do
            match (g.node item).content with
            | .mapping _ =>
              let g ← mergeFrom fuel g item 0 []
              return (g, g.entries item :: parts)
            | _ => throw .malformed)
          (g, [])
        mergeFrom fuel g n index (merged ++ parts.flatten)
      | .scalar _ => .error .malformed

/-- The graph with all that a mapping stands for merged into it. -/
def mergeInto (g : Graph) (n : Nat) : Except YamlFault Graph :=
  mergeFrom (g.mergeCount + 1) g n 0 []

end Registry.Yaml.Graph
