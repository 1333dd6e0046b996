import WebhookOperator.Yaml.Node

/-!
# Documents with resolved aliases

An alias is resolved by a slot. The first node with an anchor takes slot 0, and an anchor with a new
name takes the slot whose number is the count of names so far. An anchor whose name was given before
takes such a slot as well, but does not add to the names, so the next new name takes the same slot
again. An alias means the slot that its name has at that place, and that is the last node which took
the slot in the whole document.
-/

namespace WebhookOperator.Yaml

/-- A node whose aliases are resolved to slots. -/
inductive Tree where
  | alias (slot : Nat)
  | scalar (tag : Option String) (plain : Bool) (text : String)
  | sequence (tag : Option String) (items : List Tree)
  | mapping (entries : List (Tree × Tree))
deriving Inhabited

/-- What is known of the anchors in the middle of a document. -/
structure Anchors where
  /-- The slot of each name, the last one first. -/
  slots : List (String × Nat) := []
  /-- How many nodes have taken a slot. -/
  taken : Nat := 0
  /-- The nodes that took a slot: when, which, and what they are. -/
  targets : List (Nat × Nat × Tree) := []

/-- A document: its root, and the nodes that aliases may mean. -/
structure Document where
  root : Tree
  targets : List (Nat × Nat × Tree)

namespace Anchors

def take (anchors : Anchors) (name : String) : Nat × Nat × Anchors :=
  let slot := anchors.slots.length
  (anchors.taken, slot,
    { anchors with
      slots := (name, slot) :: anchors.slots.filter (·.1 ≠ name)
      taken := anchors.taken + 1 })

/-- Resolves a node that may carry an anchor, with its inner nodes resolved by `inner`. -/
def anchored (anchor : Option String) (inner : StateT Anchors Option Tree) :
    StateT Anchors Option Tree :=
  match anchor with
  | none => inner
  | some name => do
    let (order, slot, anchors) := (← get).take name
    set anchors
    let tree ← inner
    modify fun anchors => { anchors with targets := (order, slot, tree) :: anchors.targets }
    return tree

end Anchors

mutual

/-- Resolves the aliases of a node; an alias of an unknown name is refused. -/
def Node.resolve : Node → StateT Anchors Option Tree
  | .alias name => do
    let some slot := (← get).slots.lookup name | failure
    return .alias slot
  | .scalar properties plain text =>
    Anchors.anchored properties.anchor (pure (.scalar properties.tag plain text))
  | .sequence properties items => Anchors.anchored properties.anchor do
    return .sequence properties.tag (← Node.resolveItems items)
  | .mapping properties entries => Anchors.anchored properties.anchor do
    return .mapping (← Node.resolveEntries entries)

def Node.resolveItems : List Node → StateT Anchors Option (List Tree)
  | [] => return []
  | item :: items => do
    let item ← Node.resolve item
    return item :: (← Node.resolveItems items)

def Node.resolveEntries : List (Node × Node) → StateT Anchors Option (List (Tree × Tree))
  | [] => return []
  | (key, value) :: entries => do
    let key ← Node.resolve key
    let value ← Node.resolve value
    return (key, value) :: (← Node.resolveEntries entries)

end

namespace Document

def ofNode? (node : Node) : Option Document := do
  let (root, anchors) ← node.resolve.run {}
  return ⟨root, anchors.targets⟩

/-- What an alias means: of the nodes that took its slot the one that did so last. -/
def target? (document : Document) (slot : Nat) : Option Tree :=
  let takers := document.targets.filter (·.2.1 == slot)
  (takers.foldl (fun last taker =>
    match last with
    | none => some taker
    | some best => some (if best.1 < taker.1 then taker else best)) none).map (·.2.2)

/-- A node, or the one that it stands for. -/
def meaning? (document : Document) : Tree → Option Tree
  | .alias slot => document.target? slot
  | tree => some tree

end Document

end WebhookOperator.Yaml
