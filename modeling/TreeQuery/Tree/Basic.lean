import TreeQuery.Number

/-!
# Trees

Queries never look into a node. What they need to know of a tree is a `Tree`: the kind and the
source text of a node, its children and the siblings behind it, its named accessors, the literal
that it stands for, and whether it is a transparent wrapper. Every representation of trees that
provides these can be queried. The one law is that **children are lower than their parent**: each
node has a height, and the height falls from a node to its children. It makes every walk through
the descendants end.

A slot is what a step through a tree arrives at: a node, a list of slots, or a scalar. The
absent slot stands for everything that is not there, a missing accessor or a position out of
range, so that **walking through a tree never fails**.

A node may stand for a value: a number, a text, a list of element nodes, or the node inside a
pair of parentheses. Comparisons look at the value behind, so that a slot is first reduced:
**a node with a literal is replaced by the reduction of that literal, and a list by the list of its
reduced elements**. Literals are arbitrary links and may form cycles. Reduction therefore follows at
most `Tree.reductionDepth` links, counting those from a list to its elements, and leaves what lies
deeper as it is.

## Main definitions

* `Slot.nodes` — the nodes of a slot, with lists flattened and all else dropped.
* `Slot.number?` — the numeric reading of a slot.
* `Tree.childNodes` — the direct children with list slots flattened.
* `Tree.descendants` — all nodes below a node, in pre-order.
* `Tree.reduce` — the value that a slot stands for.
-/

namespace TreeQuery

/-! ### Slots -/

/-- A value reached from a node, over nodes of type `ν`. -/
inductive Slot (ν : Type) where
  /-- A node of the tree. -/
  | node (node : ν)
  /-- A position that holds several slots. -/
  | list (items : List (Slot ν))
  /-- A text. -/
  | text (value : String)
  /-- A symbol, a text that stands for a name. -/
  | symbol (value : String)
  /-- An integer. -/
  | integer (value : Int64)
  /-- A double. -/
  | float (value : Binary64)
  /-- A truth value. -/
  | boolean (value : Bool)
  /-- Nothing. -/
  | absent

namespace Slot

variable {ν : Type}

/-- The node that the slot is. -/
def node? : Slot ν → Option ν
  | node n => some n
  | _ => none

/-- The elements of the slot if it is a list. -/
def items? : Slot ν → Option (List (Slot ν))
  | list items => some items
  | _ => none

/-- Whether the slot is absent. -/
def isAbsent : Slot ν → Bool
  | absent => true
  | _ => false

/-- The number that the slot is. -/
def number? : Slot ν → Option Number
  | integer value => some (.integer value)
  | float value => some (.float value)
  | _ => none

/-- The truth value that the slot is. -/
def boolean? : Slot ν → Option Bool
  | boolean value => some value
  | _ => none

mutual

/-- The nodes of a slot in order: **lists are flattened to any depth, scalars and absent slots
hold no node**. -/
def nodes : Slot ν → List ν
  | node n => [n]
  | list items => nodesOfAll items
  | _ => []

/-- The nodes of several slots in order. -/
def nodesOfAll : List (Slot ν) → List ν
  | [] => []
  | slot :: slots => nodes slot ++ nodesOfAll slots

end

/-- The nodes of several slots are those of each, one slot after the other. -/
theorem nodesOfAll_eq_flatMap (slots : List (Slot ν)) : nodesOfAll slots = slots.flatMap nodes := by
  induction slots with
  | nil => rfl
  | cons slot slots ih => rw [nodesOfAll, ih, List.flatMap_cons]

/-- A list holds the nodes that its elements hold. -/
theorem mem_nodes_list {m : ν} {items : List (Slot ν)} :
    m ∈ (list items).nodes ↔ ∃ item ∈ items, m ∈ item.nodes := by
  rw [nodes, nodesOfAll_eq_flatMap, List.mem_flatMap]

/-- Nodes taken as slots hold themselves. -/
theorem nodesOfAll_map_node (ns : List ν) : nodesOfAll (ns.map node) = ns := by
  induction ns with
  | nil => rfl
  | cons n ns ih => simp [nodesOfAll, nodes, ih]

end Slot

/-! ### Nodes -/

/-- Access to a tree with nodes of type `ν`. -/
structure Tree (ν : Type) where
  /-- The kind of a node, which selectors name. -/
  kind : ν → String
  /-- The source text of a node. -/
  source : ν → String
  /-- The child slots of a node in order; a slot may be absent or hold several nodes. -/
  children : ν → List (Slot ν)
  /-- The slots behind a node among the children of its parent. -/
  siblings : ν → List (Slot ν)
  /-- The value of a named accessor, if the node has it. -/
  accessor : ν → String → Option (Slot ν)
  /-- The value that a literal node stands for. It may be a node or hold nodes, which may stand
  for further values. -/
  literal : ν → Option (Slot ν)
  /-- Whether the node only groups its children. -/
  isTransparent : ν → Bool
  /-- A number that falls from a node to its children. -/
  height : ν → Nat
  /-- Children are lower than their parent. -/
  height_lt : ∀ n, ∀ c ∈ Slot.nodesOfAll (children n), height c < height n

namespace Tree

variable {ν : Type}

/-- The direct children of a node: list slots flattened, absent slots dropped. -/
def childNodes (t : Tree ν) (n : ν) : List ν := Slot.nodesOfAll (t.children n)

/-- The children of a node are lower than the node. -/
theorem height_lt_of_mem_childNodes (t : Tree ν) {n c : ν} (h : c ∈ t.childNodes n) :
    t.height c < t.height n :=
  t.height_lt n c h

/-- All nodes below a node in **pre-order**: each child is followed by its own descendants
before the next child comes. -/
def descendants (t : Tree ν) (n : ν) : List ν :=
  (t.childNodes n).attach.flatMap fun c => c.1 :: descendants t c.1
termination_by t.height n
decreasing_by exact t.height_lt_of_mem_childNodes c.2

/-- The descendants of a node are its children, each followed by its own descendants. -/
theorem descendants_eq (t : Tree ν) (n : ν) :
    t.descendants n = (t.childNodes n).flatMap fun c => c :: t.descendants c := by
  rw [descendants, List.flatMap_subtype (g := fun c => c :: t.descendants c) fun _ _ => rfl,
    List.unattach_attach]

/-! ### Literals -/

/-- Reduces a slot along at most `depth` links. -/
def reduceWithin (t : Tree ν) : (depth : Nat) → Slot ν → Slot ν
  | 0, slot => slot
  | depth + 1, .node n =>
    match t.literal n with
    | some value => reduceWithin t depth value
    | none => .node n
  | depth + 1, .list items => .list (items.map (reduceWithin t depth))
  | _ + 1, slot => slot

/-- How many links a reduction follows. -/
def reductionDepth : Nat := 64

/-- The value that a slot stands for. -/
def reduce (t : Tree ν) (slot : Slot ν) : Slot ν := t.reduceWithin reductionDepth slot

/-- The elements of a slot as a sequence, its own before those of its reduction `reduced`.
**Elements of a list are not reduced one by one**: they are compared as they stand. -/
def elements? (slot reduced : Slot ν) : Option (List (Slot ν)) := slot.items? <|> reduced.items?

end Tree

end TreeQuery
