import Registry.Recursion
import Registry.Yaml.Kind
import Registry.Yaml.Token

/-!
# Graphs of nodes

The nodes of a document: scalars, sequences and mappings. A node is known by its number, so an alias
is the number of the node with its anchor, and a node can be inside itself. Nodes are numbered in
the order in which they begin.
-/

namespace Registry.Yaml

/-- What a node holds. -/
inductive Content
  | scalar (t : Text)
  | sequence (items : List Nat)
  | mapping (entries : List (Nat × Nat))

structure Node where
  kind : Kind
  content : Content

/-- The nodes of a document under their numbers. -/
abbrev Graph := Array Node

namespace Graph

/-- The node of a number, and an empty text for a number of none. -/
def node (g : Graph) (n : Nat) : Node := g[n]?.getD ⟨.text, .scalar []⟩

end Graph

/-- How many containers may be inside each other: the recursion limit leaves two calls for each. -/
def nestingLimit : Nat := callsLeft / 2

/-- The text that a tag handle stands for. -/
abbrev Handles := List (Text × Text)

/-- The handles of every document. -/
def standardHandles : Handles :=
  [(Text.ofString "!", Text.ofString "!"), (Text.ofString "!!", Text.ofString Kind.tagPrefix)]

/-- A graph that is being built: the tokens left and what ends them, the meanings of tag handles,
the nodes so far and the numbers of those with an anchor. -/
structure Builder where
  tokens : List Token
  fault : Option YamlFault
  handles : Handles
  nodes : Graph
  anchors : List (Text × Nat)

namespace Builder

/-- What is built, and the builder after it. -/
abbrev Build (α : Type) := StateT Builder (Except YamlFault) α

/-- The next token, or none at the end. -/
def peek : Build (Option Token) := do
  let b ← get
  match b.tokens, b.fault with
  | t :: _, _ => return some t
  | [], some e => throw e
  | [], none => return none

/-- Passes over the next token. -/
def pass : Build Unit := modify fun b => { b with tokens := b.tokens.tail }

/-- Passes over the next token if it is a given one. -/
def accept (t : Token) : Build Bool := do
  if (← peek) = some t then
    pass
    return true
  else return false

/-- Passes over the next token, which must be a given one. -/
def expect (t : Token) : Build Unit := do
  if !(← accept t) then throw .malformed

/-- The next token is one of a list. -/
def isNext (l : List Token) : Build Bool := return (← peek).any l.contains

def addNode (x : Node) : Build Nat := do
  let b ← get
  set { b with nodes := b.nodes.push x }
  return b.nodes.size

def setContent (n : Nat) (c : Content) : Build Unit :=
  modify fun b => { b with nodes := b.nodes.modify n fun x => { x with content := c } }

/-- Adds a node of no text. -/
def addEmpty : Build Nat := addNode ⟨.null, .scalar []⟩

def addAnchor (name : Option Text) (n : Nat) : Build Unit :=
  match name with
  | none => return ()
  | some name => modify fun b => { b with anchors := (name, n) :: b.anchors }

/-- The anchor and the tag before a node, in either order. -/
def properties : Build (Option Text × Option Tag) := do
  match ← peek with
  | some (.anchor name) =>
    pass
    match ← peek with
    | some (.tag t) => pass; return (some name, some t)
    | _ => return (some name, none)
  | some (.tag t) =>
    pass
    match ← peek with
    | some (.anchor name) => pass; return (some name, some t)
    | _ => return (none, some t)
  | _ => return (none, none)

/-- The tag in full; the tag `!` says no more than that it is not plain, and counts as none. -/
def fullTag (t : Option Tag) : Build (Option Text) := do
  match t with
  | none => return none
  | some ⟨none, suffix⟩ => return some suffix
  | some ⟨some handle, suffix⟩ =>
    match (← get).handles.find? fun (name, _) => name == handle with
    | some (_, meaning) => return some (meaning ++ suffix)
    | none => throw .malformed

/-- The tag that leaves the kind of a node open. -/
def openTag : Text := "!"

def scalarKind (tag : Option Text) (isPlain : Bool) (t : Text) : Kind :=
  match tag with
  | none => if isPlain then Kind.ofPlain t else .text
  | some tag => if tag = openTag then Kind.ofPlain t else Kind.ofTag tag

def containerKind (tag : Option Text) (standard : Kind) : Kind :=
  match tag with
  | none => standard
  | some tag => if tag = openTag then standard else Kind.ofTag tag

/-- Adds a container with its anchor, and then what is inside. -/
def container (depth : Nat) (anchor tag : Option Text) (standard : Kind) (empty : Content)
    (inside : Build Content) : Build Nat := do
  if nestingLimit ≤ depth then throw .nesting
  let n ← addNode ⟨containerKind tag standard, empty⟩
  addAnchor anchor n
  setContent n (← inside)
  return n

mutual

/-- The node at the next token. A block may begin there, or, where a hyphen would be one of the
block around it, the entries of a sequence without a block of their own. -/
def node (inBlock hyphens : Bool) : (fuel : Nat) → (depth : Nat) → Build Nat
  | 0, _ => throw .malformed
  | fuel + 1, depth => do
    match ← peek with
    | some (.alias name) =>
      pass
      match (← get).anchors.find? fun (a, _) => a == name with
      | some (_, n) => return n
      | none => throw .malformed
    | _ =>
      let (anchor, tag) ← properties
      let tag ← fullTag tag
      let next ← peek
      let anchors := (← get).anchors
      if anchor.any fun name => anchors.any fun (a, _) => a == name then throw .malformed
      let sequence (inside : Build (List Nat)) : Build Nat :=
        container depth anchor tag .sequence (.sequence []) (Content.sequence <$> inside)
      let mapping (inside : Build (List (Nat × Nat))) : Build Nat :=
        container depth anchor tag .mapping (.mapping []) (Content.mapping <$> inside)
      match next with
      | some (.scalar t isPlain) =>
        pass
        let n ← addNode ⟨scalarKind tag isPlain t, .scalar t⟩
        addAnchor anchor n
        return n
      | some .flowSequence => pass; sequence (flowItems true fuel (depth + 1))
      | some .flowMapping => pass; mapping (flowEntries true fuel (depth + 1))
      | next =>
        if hyphens && next = some .blockEntry then
          sequence (hyphenItems fuel (depth + 1))
        else if inBlock && next = some .blockSequence then
          pass
          sequence (blockItems fuel (depth + 1))
        else if inBlock && next = some .blockMapping then
          pass
          mapping (blockEntries fuel (depth + 1))
        else if anchor.isSome || tag.isSome then
          let n ← addNode ⟨scalarKind tag true [], .scalar []⟩
          addAnchor anchor n
          return n
        else throw .malformed
termination_by structural fuel => fuel

/-- A node, or an empty one before one of the tokens that can follow it. -/
def nodeBefore (ends : List Token) (inBlock hyphens : Bool) :
    (fuel : Nat) → (depth : Nat) → Build Nat
  | 0, _ => throw .malformed
  | fuel + 1, depth => do
    if ← isNext ends then addEmpty else node inBlock hyphens fuel depth
termination_by structural fuel => fuel

/-- The entries of a block sequence up to its end. -/
def blockItems : (fuel : Nat) → (depth : Nat) → Build (List Nat)
  | 0, _ => throw .malformed
  | fuel + 1, depth => do
    if ← accept .blockEntry then
      let item ← nodeBefore [.blockEntry, .blockEnd] true false fuel depth
      return item :: (← blockItems fuel depth)
    else
      expect .blockEnd
      return []
termination_by structural fuel => fuel

/-- The entries of a sequence inside the block of a mapping. -/
def hyphenItems : (fuel : Nat) → (depth : Nat) → Build (List Nat)
  | 0, _ => throw .malformed
  | fuel + 1, depth => do
    if ← accept .blockEntry then
      let item ← nodeBefore [.blockEntry, .key, .value, .blockEnd] true false fuel depth
      return item :: (← hyphenItems fuel depth)
    else return []
termination_by structural fuel => fuel

/-- The entries of a block mapping up to its end. -/
def blockEntries : (fuel : Nat) → (depth : Nat) → Build (List (Nat × Nat))
  | 0, _ => throw .malformed
  | fuel + 1, depth => do
    let ends : List Token := [.key, .value, .blockEnd]
    if ← accept .key then
      let k ← nodeBefore ends true true fuel depth
      let v ← if ← accept .value then nodeBefore ends true true fuel depth else addEmpty
      return (k, v) :: (← blockEntries fuel depth)
    else
      expect .blockEnd
      return []
termination_by structural fuel => fuel

/-- The items of a flow sequence up to its end. A key among them is a mapping of one entry. -/
def flowItems (first : Bool) : (fuel : Nat) → (depth : Nat) → Build (List Nat)
  | 0, _ => throw .malformed
  | fuel + 1, depth => do
    if ← accept .flowSequenceEnd then return []
    else
      if !first then expect .flowEntry
      if ← accept .key then
        let item ← container depth none none .mapping (.mapping []) do
          let k ← nodeBefore [.value, .flowEntry, .flowSequenceEnd] false false fuel (depth + 1)
          let v ←
            if ← accept .value then
              nodeBefore [.flowEntry, .flowSequenceEnd] false false fuel (depth + 1)
            else addEmpty
          return .mapping [(k, v)]
        return item :: (← flowItems false fuel depth)
      else if ← accept .flowSequenceEnd then return []
      else
        let item ← node false false fuel depth
        return item :: (← flowItems false fuel depth)
termination_by structural fuel => fuel

/-- The entries of a flow mapping up to its end. A node that is no key is one without a value. -/
def flowEntries (first : Bool) : (fuel : Nat) → (depth : Nat) → Build (List (Nat × Nat))
  | 0, _ => throw .malformed
  | fuel + 1, depth => do
    if ← accept .flowMappingEnd then return []
    else
      if !first then expect .flowEntry
      if ← accept .key then
        let k ← nodeBefore [.value, .flowEntry, .flowMappingEnd] false false fuel depth
        let v ←
          if ← accept .value then
            nodeBefore [.flowEntry, .flowMappingEnd] false false fuel depth
          else addEmpty
        return (k, v) :: (← flowEntries false fuel depth)
      else if ← accept .flowMappingEnd then return []
      else
        let k ← node false false fuel depth
        let v ← addEmpty
        return (k, v) :: (← flowEntries false fuel depth)
termination_by structural fuel => fuel

end

/-! ## Documents -/

/-- Passes over marks of ends of documents. -/
def passEnds : (fuel : Nat) → Build Unit
  | 0 => return ()
  | fuel + 1 => do
    if ← accept .documentEnd then passEnds fuel

/-- Reads directives before a document; `versioned` tells whether a version has been said. -/
def directives : (fuel : Nat) → (versioned : Bool) → Handles → Build Handles
  | 0, _, handles => return handles
  | fuel + 1, versioned, handles => do
    match ← peek with
    | some (.directive (.version major)) =>
      pass
      if versioned || major ≠ 1 then throw .malformed
      directives fuel true handles
    | some (.directive (.handle name meaning)) =>
      pass
      if handles.any fun (n, _) => n == name then throw .malformed
      directives fuel versioned ((name, meaning) :: handles)
    | some (.directive .other) =>
      pass
      directives fuel versioned handles
    | _ => return handles

/-- The next token stands before or after a document. -/
def outside : Option Token → Bool
  | none => true
  | some (.directive _) => true
  | some .documentStart => true
  | some .documentEnd => true
  | _ => false

/-- The document after its mark, which may be empty. -/
def marked (fuel : Nat) : Build Nat := do
  let handles ← directives fuel false []
  expect .documentStart
  modify fun b => { b with handles := handles ++ standardHandles }
  if outside (← peek) then addEmpty else node true false fuel 0

/-- The number of the node of the only document, if there is one. -/
def document (fuel : Nat) : Build (Option Nat) := do
  let next ← peek
  let root ←
    if outside next && next ≠ some .documentEnd then
      if next.isNone then return none
      else marked fuel
    else node true false fuel 0
  passEnds fuel
  if (← peek).isSome then throw .malformed
  return some root

end Builder

namespace Graph

/-- The graph of a document and the number of its node, if it has one. -/
def ofText (t : Text) : Except YamlFault (Graph × Option Nat) :=
  let (tokens, fault) := Yaml.tokens t
  let fuel := 4 * tokens.length + 4
  ((Builder.document fuel).run ⟨tokens, fault, standardHandles, #[], []⟩).map fun (root, b) =>
    (b.nodes, root)

end Graph

end Registry.Yaml
