import TreeQuery.Proofs.Subtree

/-!
# Trees that agree on some nodes

Two trees may show the same of some nodes and differ in all others. If these nodes lead to one
another only, by children, accessors and literals, then key paths, literals and traversals that
start among them see no other node, and **come to the same in both trees**.

Siblings are another matter. They are read from a parent, and a node may have its parent among the
others, so that a combinator may lead elsewhere in each of the trees.

## Main definitions and results

* `Tree.AgreeOn` — two trees show the same of each node in a set, which nothing leads out of.
* `Tree.AgreeAlong` — a combinator leads from the set to the same nodes in it.
* `Tree.AgreeOn.resolve_eq`, `Tree.AgreeOn.reduce_eq`: key paths and literals come to the same.
* `Tree.AgreeOn.agreeAlong_child`: the combinator for children does, too.
* `Tree.AgreeOn.search_eq`: **traversals with the same tests find the same.**
-/

namespace TreeQuery

open Fallible Slot

variable {ν : Type} {t t' : Tree ν} {inside : ν → Prop}

/-- The elements of a list are inside with it. -/
theorem Slot.isInside_of_items? {slot : Slot ν} (hslot : slot.IsInside inside)
    {items : List (Slot ν)} (hitems : slot.items? = some items) :
    ∀ item ∈ items, item.IsInside inside := by
  cases slot with
  | list others =>
    obtain rfl := Option.some.inj hitems
    exact isInside_list.mp hslot
  | _ => cases hitems

/-- Two trees show the same of each node in a set that neither children nor accessors nor literals
lead out of. -/
structure Tree.AgreeOn (t t' : Tree ν) (inside : ν → Prop) : Prop where
  /-- Neither children nor accessors lead out. -/
  closed : t.IsClosed inside
  /-- Neither do literals. -/
  literal_isInside : ∀ n, inside n → ∀ slot, t.literal n = some slot → slot.IsInside inside
  /-- Kinds agree. -/
  kind : ∀ n, inside n → t.kind n = t'.kind n
  /-- Source texts agree. -/
  source : ∀ n, inside n → t.source n = t'.source n
  /-- Children agree. -/
  children : ∀ n, inside n → t.children n = t'.children n
  /-- Accessors agree. -/
  accessor : ∀ n, inside n → t.accessor n = t'.accessor n
  /-- Literals agree. -/
  literal : ∀ n, inside n → t.literal n = t'.literal n
  /-- Wrappers agree. -/
  isTransparent : ∀ n, inside n → t.isTransparent n = t'.isTransparent n

/-- A combinator leads from a set to the same nodes of it in both trees. -/
def Tree.AgreeAlong (t t' : Tree ν) (inside : ν → Prop) (combinator : Combinator) : Prop :=
  ∀ slot : Slot ν, slot.IsInside inside →
    t.reached combinator slot = t'.reached combinator slot ∧
      ∀ n ∈ t.reached combinator slot, inside n

namespace Tree.AgreeOn

/-! ### Literals, texts and key paths -/

/-- Following literals does not lead out, along however many links. -/
theorem isInside_reduceWithin (h : t.AgreeOn t' inside) (depth : Nat) {slot : Slot ν}
    (hslot : slot.IsInside inside) : (t.reduceWithin depth slot).IsInside inside := by
  induction depth generalizing slot with
  | zero => exact hslot
  | succ depth ih =>
    cases slot with
    | node n =>
      rw [reduceWithin]
      cases hliteral : t.literal n with
      | none => exact hslot
      | some value => exact ih (h.literal_isInside n (isInside_node.mp hslot) value hliteral)
    | list items =>
      refine isInside_list.mpr (List.forall_mem_map.mpr fun item hitem => ?_)
      exact ih (isInside_list.mp hslot item hitem)
    | _ => exact hslot

/-- Following the same number of links comes to the same. -/
theorem reduceWithin_eq (h : t.AgreeOn t' inside) (depth : Nat) {slot : Slot ν}
    (hslot : slot.IsInside inside) : t.reduceWithin depth slot = t'.reduceWithin depth slot := by
  induction depth generalizing slot with
  | zero => rfl
  | succ depth ih =>
    cases slot with
    | node n =>
      have hn := isInside_node.mp hslot
      rw [reduceWithin, reduceWithin, ← h.literal n hn]
      cases hliteral : t.literal n with
      | none => rfl
      | some value => exact ih (h.literal_isInside n hn value hliteral)
    | list items =>
      rw [reduceWithin, reduceWithin]
      exact congrArg Slot.list (List.map_congr_left fun item hitem =>
        ih (isInside_list.mp hslot item hitem))
    | _ => rfl

/-- What a slot stands for does not lead out. -/
theorem isInside_reduce (h : t.AgreeOn t' inside) {slot : Slot ν} (hslot : slot.IsInside inside) :
    (t.reduce slot).IsInside inside :=
  h.isInside_reduceWithin _ hslot

/-- **What a slot stands for is the same.** -/
theorem reduce_eq (h : t.AgreeOn t' inside) {slot : Slot ν} (hslot : slot.IsInside inside) :
    t.reduce slot = t'.reduce slot :=
  h.reduceWithin_eq _ hslot

mutual

/-- The text of a slot is the same. -/
theorem text_eq (h : t.AgreeOn t' inside) :
    ∀ slot : Slot ν, slot.IsInside inside → t.text slot = t'.text slot
  | .node n, hslot => h.source n (isInside_node.mp hslot)
  | .list items, hslot => by
    rw [Tree.text, Tree.text, texts_eq h items (isInside_list.mp hslot)]
  | .text _, _ | .symbol _, _ | .integer _, _ | .float _, _ | .boolean _, _ | .absent, _ => rfl

/-- The texts of several slots are the same. -/
theorem texts_eq (h : t.AgreeOn t' inside) : ∀ slots : List (Slot ν),
    (∀ slot ∈ slots, slot.IsInside inside) → t.texts slots = t'.texts slots
  | [], _ => rfl
  | slot :: slots, hslots => by
    obtain ⟨hslot, hslots⟩ := List.forall_mem_cons.mp hslots
    rw [Tree.texts, Tree.texts, text_eq h slot hslot, texts_eq h slots hslots]

end

/-- The child nodes are the same. -/
theorem childNodes_eq (h : t.AgreeOn t' inside) {n : ν} (hn : inside n) :
    t.childNodes n = t'.childNodes n := by
  rw [childNodes, childNodes, h.children n hn]

/-- A step comes to the same. -/
theorem step_eq (h : t.AgreeOn t' inside) {slot : Slot ν} (hslot : slot.IsInside inside)
    (segment : Segment) : t.step slot segment = t'.step slot segment := by
  cases slot with
  | node n =>
    have hn := isInside_node.mp hslot
    simp only [step, nodeStep, commonStep, childSlots, h.kind n hn, h.source n hn, h.children n hn,
      h.accessor n hn, h.childNodes_eq hn]
  | _ => rfl

/-- Steps along segments come to the same, and do not lead out on their way. -/
theorem resolveFrom_eq (h : t.AgreeOn t' inside) {segments : List Segment} {slot : Slot ν}
    (hslot : slot.IsInside inside) :
    t.resolveFrom segments slot = t'.resolveFrom segments slot := by
  -- A wildcard walks the rest of the path from each element, so that the slot is not fixed.
  induction segments generalizing slot with
  | nil => rfl
  | cons segment rest ih =>
    cases segment with
    | wildcard =>
      cases rest with
      | nil => cases slot <;> rfl
      | cons next rest =>
        cases slot with
        | list items =>
          exact congrArg Slot.list (List.map_congr_left fun item hitem =>
            ih (isInside_list.mp hslot item hitem))
        | _ => rfl
    | name _ | index _ =>
      refine (ih (isInside_step h.closed hslot _)).trans ?_
      exact congrArg (t'.resolveFrom rest) (h.step_eq hslot _)

/-- **A key path leads to the same slot.** -/
theorem resolve_eq (h : t.AgreeOn t' inside) {n : ν} (hn : inside n) (path : KeyPath) :
    t.resolve n path = t'.resolve n path :=
  h.resolveFrom_eq (isInside_node.mpr hn)

/-- A template is expanded to the same text. -/
theorem expandTemplate_eq (h : t.AgreeOn t' inside) (template : String) {base : ν}
    (hbase : inside base) : t.expandTemplate template base = t'.expandTemplate template base := by
  have htext : ∀ path, t.text (t.resolve base path) = t'.text (t'.resolve base path) := by
    intro path
    rw [← h.resolve_eq hbase]
    exact h.text_eq _ (isInside_resolve h.closed hbase path)
  simp only [expandTemplate, htext]

/-! ### Moves and traversals -/

/-- The trees agree along the combinator for children. -/
theorem agreeAlong_child (h : t.AgreeOn t' inside) : t.AgreeAlong t' inside .child := by
  intro slot hslot
  refine ⟨?_, fun n hn => inside_of_mem_reached_child h.closed hslot hn⟩
  cases slot with
  | node n =>
    have hn := isInside_node.mp hslot
    rw [reached, reached, ← h.childNodes_eq hn]
    refine List.flatMap_congr fun c hc => ?_
    have hchild := h.closed.child n hn c hc
    rw [h.isTransparent c hchild, h.childNodes_eq hchild]
  | _ => rfl

/-- Where siblings agree and are inside, the trees agree along the other combinators too. -/
theorem agreeAlong_of_siblings (h : t.AgreeOn t' inside)
    (hsiblings : ∀ n, inside n → t.siblings n = t'.siblings n ∧
      ∀ m ∈ Slot.nodesOfAll (t.siblings n), inside m) (combinator : Combinator) :
    t.AgreeAlong t' inside combinator := by
  have hlater : t.AgreeAlong t' inside .laterSibling := by
    intro slot hslot
    cases slot with
    | node n =>
      obtain ⟨heq, hinside⟩ := hsiblings n (isInside_node.mp hslot)
      exact ⟨congrArg Slot.nodesOfAll heq, hinside⟩
    | _ => exact ⟨rfl, fun n hn => absurd hn List.not_mem_nil⟩
  cases combinator with
  | child => exact h.agreeAlong_child
  | laterSibling => exact hlater
  | nextSibling =>
    -- the next sibling is the first of the later ones
    intro slot hslot
    have hfirst :
        ∀ t : Tree ν, t.reached .nextSibling slot = (t.reached .laterSibling slot).take 1 := by
      intro t
      cases slot <;> rfl
    obtain ⟨heq, hinside⟩ := hlater slot hslot
    rw [hfirst, hfirst, ← heq]
    exact ⟨rfl, fun n hn => hinside n (List.mem_of_mem_take hn)⟩

/-- The descendants are the same: none of them lies outside. -/
theorem descendants_eq (h : t.AgreeOn t' inside) {n : ν} (hn : inside n) :
    t.descendants n = t'.descendants n := by
  induction hheight : t.height n using Nat.strongRecOn generalizing n with
  | ind height ih =>
    subst hheight
    rw [t.descendants_eq, t'.descendants_eq, ← h.childNodes_eq hn]
    refine List.flatMap_congr fun c hc => ?_
    rw [ih _ (t.height_lt_of_mem_childNodes hc) (h.closed.child n hn c hc) rfl]

/-- A search tests the same nodes in the same order. -/
theorem candidates_eq (h : t.AgreeOn t' inside) (options : Options) {n : ν} (hn : inside n) :
    t.candidates options n = t'.candidates options n := by
  rw [candidates, candidates, h.descendants_eq hn, h.childNodes_eq hn]

/-- **A traversal with tests that agree on the nodes of the set** has the same result. -/
theorem search_eq {ε : Type} {test test' : ν → Except ε Bool} (h : t.AgreeOn t' inside)
    (htest : ∀ m, inside m → test m = test' m) (options : Options) {n : ν} (hn : inside n) :
    t.search options test n = t'.search options test' n := by
  have hcandidates : ∀ m ∈ t.candidates options n, test m = test' m :=
    fun m hm => htest m (inside_of_mem_candidates h.closed hn hm)
  rw [t.search_eq, t'.search_eq, ← h.candidates_eq options hn, first?_congr hcandidates,
    filter_congr hcandidates]

/-- The elements that a slot is taken for are the same. -/
theorem elements?_eq (h : t.AgreeOn t' inside) {slot : Slot ν} (hslot : slot.IsInside inside) :
    elements? slot (t.reduce slot) = elements? slot (t'.reduce slot) := by
  rw [h.reduce_eq hslot]

/-- The elements of a slot are inside with it. -/
theorem isInside_of_mem_elements (h : t.AgreeOn t' inside) {slot : Slot ν}
    (hslot : slot.IsInside inside) {items : List (Slot ν)}
    (hitems : elements? slot (t.reduce slot) = some items) :
    ∀ item ∈ items, item.IsInside inside := by
  rw [elements?, Option.orElse_eq_orElse, Option.orElse_eq_or, Option.or_eq_some_iff] at hitems
  rcases hitems with hown | ⟨-, hreduced⟩
  · exact isInside_of_items? hslot hown
  · exact isInside_of_items? (h.isInside_reduce hslot) hreduced

end Tree.AgreeOn

end TreeQuery
