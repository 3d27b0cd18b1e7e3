import TreeQuery.Tree.Basic

/-!
# Arenas

An arena is a tree built by hand. Nodes are finished one after the other and are known by their
place in that order; what a node holds refers to nodes finished before it. That is the law which
an `Arena` carries, and it makes every arena a `Tree`.

A node may be held by several others, or several times by one. **Its parent is the last node
finished that holds it.**

## Main definitions

* `Arena.add?` — finishes a node.
* `Arena.parent?` — the parent of a node.
* `Arena.tree` — an arena as a tree.
-/

namespace TreeQuery

/-- Something that a node holds, under a name if it has one. -/
structure Entry where
  /-- The name. -/
  name : Option String
  /-- What is held. -/
  value : Slot Nat

/-- A node of an arena. -/
structure ArenaNode where
  /-- The kind. -/
  kind : String
  /-- The source text. -/
  source : String
  /-- The value that the node stands for. -/
  literal : Option (Slot Nat) := none
  /-- What the node holds. -/
  entries : List Entry := []

namespace ArenaNode

/-- The values of the entries. -/
def values (node : ArenaNode) : List (Slot Nat) := node.entries.map Entry.value

/-- The nodes that a node holds, in order and as often as it holds them. -/
def held (node : ArenaNode) : List Nat := Slot.nodesOfAll node.values

end ArenaNode

/-- Whether a slot is a child position. **Scalars are reached by name only.** -/
def Slot.isChild {ν : Type} : Slot ν → Bool
  | node _ => true
  | list _ => true
  | absent => true
  | _ => false

/-- Dropping slots that hold no node drops no node. -/
theorem Slot.nodesOfAll_filter_isChild {ν : Type} (slots : List (Slot ν)) :
    nodesOfAll (slots.filter isChild) = nodesOfAll slots := by
  induction slots with
  | nil => rfl
  | cons slot slots ih => cases slot <;> simp [List.filter_cons, isChild, nodesOfAll, nodes, ih]

/-- Nodes in the order in which they were finished. -/
structure Arena where
  /-- The nodes. -/
  nodes : Array ArenaNode := #[]
  /-- The kinds of transparent wrappers. -/
  transparentKinds : List String := []
  /-- A node holds nodes finished before it. -/
  held_lt : ∀ n, ∀ h : n < nodes.size, ∀ c ∈ nodes[n].held, c < n := by simp

namespace Arena

/-- The number of nodes. -/
def size (a : Arena) : Nat := a.nodes.size

/-- The node of a number. Beyond the last one there are blank nodes that hold nothing. -/
def node (a : Arena) (n : Nat) : ArenaNode := a.nodes[n]?.getD { kind := "", source := "" }

/-- A node is added behind the nodes that it holds. -/
theorem lt_of_mem_held (a : Arena) {n c : Nat} (h : c ∈ (a.node n).held) : c < n := by
  unfold node at h
  by_cases hn : n < a.nodes.size
  · rw [Array.getElem?_eq_getElem hn] at h
    exact a.held_lt n hn c h
  · rw [Array.getElem?_eq_none (Nat.le_of_not_lt hn)] at h
    simp [ArenaNode.held, ArenaNode.values, Slot.nodesOfAll] at h

/-- Finishes a node, which gets the next number. A node that holds one not finished is refused. -/
def add? (a : Arena) (node : ArenaNode) : Option Arena :=
  if h : ∀ c ∈ node.held, c < a.size then
    some
      { nodes := a.nodes.push node
        transparentKinds := a.transparentKinds
        held_lt := by
          intro n hn c hc
          rw [Array.getElem_push] at hc
          split at hc
          · exact a.held_lt n _ c hc
          · obtain rfl : n = a.nodes.size := by
              have : (a.nodes.push node).size = a.nodes.size + 1 := Array.size_push node
              omega
            exact h c hc }
  else none

/-- The arena of several nodes in the order in which they are finished. -/
def ofNodes? (transparentKinds : List String) (nodes : List ArenaNode) : Option Arena :=
  nodes.foldlM add? { transparentKinds }

/-- The last node finished that holds a node. -/
def parent? (a : Arena) (n : Nat) : Option Nat :=
  (List.range a.size).reverse.find? fun p => (a.node p).held.contains n

/-- The nodes behind a node among those that its parent holds. -/
def nodesBehind (a : Arena) (n : Nat) : List Nat :=
  match a.parent? n with
  | some p => ((a.node p).held.dropWhile (· ≠ n)).drop 1
  | none => []

/-- An arena as a tree. -/
def tree (a : Arena) : Tree Nat where
  kind n := (a.node n).kind
  source n := (a.node n).source
  children n := (a.node n).values.filter Slot.isChild
  siblings n := (a.nodesBehind n).map Slot.node
  accessor n name :=
    ((a.node n).entries.find? fun entry => entry.name == some name).map Entry.value
  literal n := (a.node n).literal
  isTransparent n := a.transparentKinds.contains (a.node n).kind
  height n := n
  height_lt := by
    intro n c hc
    rw [Slot.nodesOfAll_filter_isChild] at hc
    exact a.lt_of_mem_held hc

/-- The children of a node in the tree of an arena are the nodes that it holds. -/
theorem childNodes_tree (a : Arena) (n : Nat) : a.tree.childNodes n = (a.node n).held :=
  Slot.nodesOfAll_filter_isChild _

end Arena

end TreeQuery
