import TreeQuery.Proofs.Arena
import TreeQuery.Proofs.Query.Searching
import TreeQuery.Rule.Search

/-!
# Searches that stay below their root

Everything that a query does but going to a sibling leads downwards: a key path ends at nodes that
some node on its way holds, a child combinator goes to children or, past a wrapper, to theirs, and a
traversal to descendants. So **what is found from a root is the root or one of its descendants**,
unless a link of a chain goes to siblings. Siblings that a pseudo class or a value goes to do not
matter: they are looked at, but not found.

The invariant is a set of nodes that no step leaves. Slots and the nodes found stay in it along a
key path, a selector, a chain and a query, one after the other; the nodes of a subtree are such a
set where accessors lead to children, as they do in an arena.

## Main definitions and results

* `Tree.IsClosed` — no step leaves a set of nodes.
* `Query.staysBelow` — no link goes to siblings.
* `Tree.isInside_resolve`: **key paths do not leave a closed set**.
* `Query.inside_of_mem_search`: **neither do queries that stay below**.
* `Arena.found_below`: in an arena, what is found is visited by the walk from the root.
-/

namespace TreeQuery

open Fallible

variable {ν : Type} {t : Tree ν} {inside : ν → Prop}

/-- All nodes of a slot are in a set. -/
def Slot.IsInside (inside : ν → Prop) (slot : Slot ν) : Prop := ∀ n ∈ slot.nodes, inside n

/-- No step leaves a set of nodes: with a node it holds the children and all that an accessor leads
to. -/
structure Tree.IsClosed (t : Tree ν) (inside : ν → Prop) : Prop where
  /-- Children. -/
  child : ∀ n, inside n → ∀ c ∈ t.childNodes n, inside c
  /-- Accessors. -/
  accessor : ∀ n, inside n → ∀ name slot, t.accessor n name = some slot → slot.IsInside inside

/-! ### Key paths -/

namespace Slot

/-- A node is inside as a slot when it is inside. -/
theorem isInside_node {n : ν} : (node n).IsInside inside ↔ inside n := by
  simp [IsInside, nodes]

/-- A list is inside when all of its elements are. -/
theorem isInside_list {items : List (Slot ν)} :
    (list items).IsInside inside ↔ ∀ item ∈ items, item.IsInside inside := by
  simp only [IsInside, nodes, nodesOfAll_eq_flatMap, List.mem_flatMap]
  constructor
  · intro h item hitem n hn
    exact h n ⟨item, hitem, hn⟩
  · rintro h n ⟨item, hitem, hn⟩
    exact h item hitem n hn

/-- A slot that holds no node is inside. -/
theorem isInside_of_nodes_eq_nil {slot : Slot ν} (h : slot.nodes = []) : slot.IsInside inside := by
  intro n hn
  rw [h] at hn
  cases hn

/-- An element of a list is inside with it, and so is the absent slot beyond its end. -/
theorem isInside_getElem? {items : List (Slot ν)} (h : (list items).IsInside inside) (place : Nat) :
    (items[place]?.getD absent).IsInside inside := by
  cases hitem : items[place]? with
  | none => exact isInside_of_nodes_eq_nil rfl
  | some item => exact isInside_list.mp h item (List.mem_of_getElem? hitem)

/-- The element at a position is inside with the list, also when counted from the end. -/
theorem isInside_element {items : List (Slot ν)} (h : (list items).IsInside inside)
    (position : Int) : (element items position).IsInside inside := by
  unfold element
  extract_lets place
  split
  · exact isInside_of_nodes_eq_nil rfl
  · exact isInside_getElem? h _

/-- A step from a list leads to one of its elements or to no node. -/
theorem isInside_listStep {items : List (Slot ν)} (h : (list items).IsInside inside)
    (segment : Segment) : (listStep items segment).IsInside inside := by
  cases segment with
  | index position => exact isInside_element h _
  | name name =>
    rw [listStep]
    unfold namedOfList
    split
    case h_4 | h_5 | h_6 | h_7 => exact isInside_element h _
    all_goals exact isInside_of_nodes_eq_nil rfl
  | wildcard => exact isInside_of_nodes_eq_nil rfl

/-- A step from a text leads to no node. -/
theorem isInside_textStep (value : String) (segment : Segment) :
    (textStep value segment : Slot ν).IsInside inside := by
  unfold textStep
  split <;> exact isInside_of_nodes_eq_nil rfl

end Slot

open Slot

namespace Tree

/-- The children are inside with a node, be they slots or not. -/
theorem isInside_childSlots (hclosed : t.IsClosed inside) {n : ν} (hn : inside n) :
    (Slot.list (t.childSlots n)).IsInside inside := by
  intro c hc
  rw [nodes, childSlots, nodesOfAll_map_node] at hc
  exact hclosed.child n hn c hc

/-- The names that every node has do not lead out. -/
theorem isInside_commonStep (hclosed : t.IsClosed inside) {n : ν} (hn : inside n) (name : String) :
    (t.commonStep n name).IsInside inside := by
  unfold commonStep
  -- The kind, the source, the child slots, and what the child nodes answer as a list.
  split
  · exact isInside_of_nodes_eq_nil rfl
  · exact isInside_of_nodes_eq_nil rfl
  · exact hclosed.child n hn
  · exact isInside_listStep (isInside_childSlots hclosed hn) _

/-- A step from a node leads to what an accessor leads to, to children, or to no node. -/
theorem isInside_nodeStep (hclosed : t.IsClosed inside) {n : ν} (hn : inside n)
    (segment : Segment) :
    (t.nodeStep n segment).IsInside inside := by
  unfold nodeStep
  split
  · split
    · exact isInside_of_nodes_eq_nil rfl
    · cases haccessor : t.accessor n _ with
      | some slot => exact hclosed.accessor n hn _ slot haccessor
      | none => exact isInside_commonStep hclosed hn _
  · exact isInside_listStep (isInside_childSlots hclosed hn) _

/-- **One step does not leave a closed set.** -/
theorem isInside_step (hclosed : t.IsClosed inside) {slot : Slot ν} (hslot : slot.IsInside inside)
    (segment : Segment) : (t.step slot segment).IsInside inside := by
  cases slot with
  | list items => exact isInside_listStep hslot segment
  | node n => exact isInside_nodeStep hclosed (isInside_node.mp hslot) segment
  | text value | symbol value => exact isInside_textStep value segment
  | _ => exact isInside_of_nodes_eq_nil rfl

/-- **A key path does not leave a closed set**, whatever it leads to on its way. -/
theorem isInside_resolveFrom (hclosed : t.IsClosed inside) {segments : List Segment}
    {slot : Slot ν} (hslot : slot.IsInside inside) :
    (t.resolveFrom segments slot).IsInside inside := by
  -- A wildcard walks the rest of the path from each element, so that the slot is not fixed.
  induction segments generalizing slot with
  | nil => exact hslot
  | cons segment rest ih =>
    cases segment with
    | wildcard =>
      cases rest with
      | nil =>
        cases slot with
        | list items => exact hslot
        | _ => exact isInside_of_nodes_eq_nil rfl
      | cons next rest =>
        cases slot with
        | list items =>
          refine isInside_list.mpr (List.forall_mem_map.mpr fun item hitem => ?_)
          exact ih (isInside_list.mp hslot item hitem)
        | _ => exact isInside_of_nodes_eq_nil rfl
    | name _ | index _ => exact ih (isInside_step hclosed hslot _)

/-- **No key path leads out of a closed set.** -/
theorem isInside_resolve (hclosed : t.IsClosed inside) {n : ν} (hn : inside n) (path : KeyPath) :
    (t.resolve n path).IsInside inside :=
  isInside_resolveFrom hclosed (isInside_node.mpr hn)

/-! ### Moves and traversals -/

/-- The descendants are inside with a node. -/
theorem inside_of_mem_descendants (hclosed : t.IsClosed inside) {n m : ν} (hn : inside n)
    (hm : m ∈ t.descendants n) : inside m := by
  induction hheight : t.height n using Nat.strongRecOn generalizing n with
  | ind height ih =>
    subst hheight
    rw [descendants_eq] at hm
    obtain ⟨c, hc, hm⟩ := List.mem_flatMap.mp hm
    have hinside := hclosed.child n hn c hc
    rcases List.mem_cons.mp hm with rfl | hm
    · exact hinside
    · exact ih _ (t.height_lt_of_mem_childNodes hc) hinside hm rfl

/-- A child combinator leads to children, or past a transparent child to its children. -/
theorem inside_of_mem_reached_child (hclosed : t.IsClosed inside) {slot : Slot ν}
    (hslot : slot.IsInside inside) {n : ν} (hn : n ∈ t.reached .child slot) : inside n := by
  cases slot with
  | list items => exact hslot n hn
  | node m =>
    have hm := isInside_node.mp hslot
    obtain ⟨c, hc, hn⟩ := List.mem_flatMap.mp hn
    have hinside := hclosed.child m hm c hc
    split at hn
    · exact hclosed.child c hinside n hn
    · rwa [List.mem_singleton.mp hn]
  | _ => cases hn

/-- A search from inside tests nodes that are inside. -/
theorem inside_of_mem_candidates (hclosed : t.IsClosed inside) {options : Options} {n m : ν}
    (hn : inside n) (hm : m ∈ t.candidates options n) : inside m := by
  unfold candidates at hm
  split at hm
  · rcases List.mem_cons.mp hm with rfl | hm
    · exact hn
    · exact inside_of_mem_descendants hclosed hn hm
  · rwa [List.mem_singleton.mp hm]
  · exact inside_of_mem_descendants hclosed hn hm
  · exact hclosed.child n hn m hm

end Tree

/-! ### Queries -/

/-- Whether neither a selector nor any behind its move goes to siblings. What its tests look at does
not matter. -/
def Selector.staysBelow : Selector → Bool
  | ⟨_, combinator, next, _, _, _⟩ =>
    combinator.all (fun combinator => decide (combinator = .child)) &&
      match next with
      | some selector => selector.staysBelow
      | none => true
termination_by structural selector => selector

/-- Whether no link goes to siblings. -/
def Query.staysBelow (query : Query) : Bool :=
  query.all fun chain => chain.selectors.all Selector.staysBelow

variable {options : Options}

/-- A selector stays below when its own move leads to children and the selector behind it stays
below. -/
theorem Selector.staysBelow_iff {selector : Selector} :
    selector.staysBelow = true ↔
      (∀ combinator ∈ selector.combinator, combinator = .child) ∧
        ∀ next ∈ selector.next, next.staysBelow = true := by
  obtain ⟨scope, combinator, next, kindTest, pseudoTest, position⟩ := selector
  rw [staysBelow.eq_def]
  cases combinator <;> cases next <;> simp

/-- **What a selector finds is inside with the slot that it searches from**, if it stays inside: no
combinator of a selector that stays leads out, and the selector behind its move stays as well. -/
theorem Selector.Finds.isInside (hclosed : t.IsClosed inside) (stays : Selector → Prop)
    (hmove : ∀ selector, stays selector → ∀ combinator ∈ selector.combinator, ∀ slot : Slot ν,
      slot.IsInside inside → ∀ n ∈ t.reached combinator slot, inside n)
    (hnext : ∀ selector, stays selector → ∀ next ∈ selector.next, stays next) {selector : Selector}
    (hstays : stays selector) {slot : Slot ν} (hslot : slot.IsInside inside) {n : ν}
    (hfinds : selector.Finds t options slot n) : inside n := by
  induction hfinds with
  | byCombinator hcombinator _ hreached _ =>
    exact hmove _ hstays _ hcombinator _ hslot _ hreached
  | byScope _ _ hbehind hm _ ih =>
    refine ih (hnext _ hstays _ hbehind) ?_
    exact Tree.isInside_resolve hclosed (hslot _ hm) _
  | byTest _ _ hm hcandidate _ =>
    rcases hcandidate with rfl | hcandidate
    · exact hslot _ hm
    · exact Tree.inside_of_mem_candidates hclosed (hslot _ hm) hcandidate

/-- A selector that stays below finds nodes that are inside. -/
theorem Selector.inside_of_mem_search (hclosed : t.IsClosed inside) {selector : Selector}
    (hbelow : selector.staysBelow = true) {slot : Slot ν} (hslot : slot.IsInside inside)
    {found : List ν} (h : selector.search t options slot = .ok found) {n : ν} (hn : n ∈ found) :
    inside n := by
  refine Finds.isInside hclosed (fun selector => selector.staysBelow = true) ?_ ?_ hbelow hslot
    (selector.finds_of_mem_search h hn)
  · intro selector hbelow combinator hcombinator slot hslot n hreached
    obtain rfl := (staysBelow_iff.mp hbelow).1 _ hcombinator
    exact Tree.inside_of_mem_reached_child hclosed hslot hreached
  · intro selector hbelow
    exact (staysBelow_iff.mp hbelow).2

/-- Each link searches from nodes that the one before it has found inside. -/
theorem Chain.inside_of_mem_search (hclosed : t.IsClosed inside) {chain : Chain}
    (hbelow : chain.selectors.all Selector.staysBelow = true) {slot : Slot ν}
    (hslot : slot.IsInside inside) {found : List ν} (h : chain.search t options slot = .ok found)
    {n : ν} (hn : n ∈ found) : inside n := by
  induction chain using Chain.selectors.induct generalizing slot found with
  | case1 selector =>
    rw [selectors, List.all_cons, Bool.and_eq_true] at hbelow
    exact Selector.inside_of_mem_search hclosed hbelow.1 hslot h hn
  | case2 selector rest ih =>
    rw [selectors, List.all_cons, Bool.and_eq_true] at hbelow
    obtain ⟨middle, hmiddle, hrest⟩ := bind_eq_ok.mp h
    obtain ⟨m, hm, last, hlast, hn⟩ := exists_of_mem_gather hrest hn
    have hinside := Selector.inside_of_mem_search hclosed hbelow.1 hslot hmiddle hm
    exact ih hbelow.2 (isInside_node.mpr hinside) hlast hn

/-- **What a query finds is inside with the slot that it searches from**, if no link goes to
siblings. -/
theorem Query.inside_of_mem_search (hclosed : t.IsClosed inside) {query : Query}
    (hbelow : query.staysBelow = true) {slot : Slot ν} (hslot : slot.IsInside inside)
    {found : List ν} (h : query.search t options slot = .ok found) {n : ν} (hn : n ∈ found) :
    inside n := by
  rw [search_eq_gather] at h
  obtain ⟨chain, hchain, last, hlast, hn⟩ := exists_of_mem_gather h hn
  exact Chain.inside_of_mem_search hclosed (List.all_eq_true.mp hbelow chain hchain) hslot hlast hn

/-- Rule sets make no moves. -/
theorem RuleSet.inside_of_mem_search (hclosed : t.IsClosed inside) {ruleSet : RuleSet}
    {slot : Slot ν} (hslot : slot.IsInside inside) {found : List ν}
    (h : ruleSet.search t options slot = .ok found) {n : ν} (hn : n ∈ found) : inside n := by
  obtain ⟨m, hm, kept, hkept, hn⟩ := exists_of_mem_gather h hn
  exact Tree.inside_of_mem_candidates hclosed (hslot m hm) (Tree.of_mem_search hkept hn).1

/-! ### Subtrees -/

/-- **A subtree is closed** where accessors lead to children. -/
theorem Tree.isClosed_subtree (haccessor : ∀ n name slot, t.accessor n name = some slot →
    ∀ c ∈ slot.nodes, c ∈ t.childNodes n) (root : ν) :
    t.IsClosed fun n => n = root ∨ n ∈ t.descendants root := by
  have hchild : ∀ n, n = root ∨ n ∈ t.descendants root → ∀ c ∈ t.childNodes n,
      c = root ∨ c ∈ t.descendants root := by
    intro n hn c hc
    have hbelow : c ∈ t.descendants n := by
      rw [descendants_eq]
      exact List.mem_flatMap.mpr ⟨c, hc, List.mem_cons_self⟩
    rcases hn with rfl | hn
    · exact .inr hbelow
    · obtain ⟨before, after, heq⟩ := t.exists_descendants_eq hn
      rw [heq]
      simp [hbelow]
  exact ⟨hchild, fun n hn name slot h c hc => hchild n hn c (haccessor n name slot h c hc)⟩

namespace Arena

/-- **In an arena accessors lead to children**: they are values of entries, and every node in such a
value is held. -/
theorem mem_childNodes_of_accessor (a : Arena) {n : Nat} {name : String} {slot : Slot Nat}
    (h : a.tree.accessor n name = some slot) {c : Nat} (hc : c ∈ slot.nodes) :
    c ∈ a.tree.childNodes n := by
  obtain ⟨entry, hentry, rfl⟩ := Option.map_eq_some_iff.mp h
  rw [childNodes_tree, ArenaNode.held, ArenaNode.values, nodesOfAll_eq_flatMap]
  have hvalue := List.mem_map_of_mem (f := Entry.value) (List.mem_of_find?_eq_some hentry)
  exact List.mem_flatMap.mpr ⟨entry.value, hvalue, hc⟩

/-- **What a query without a step to siblings finds from a root of an arena, and what a rule set
finds, is the root or a node that the walk from the root visits.** -/
theorem found_below (a : Arena) (root : Nat) (options : Options) :
    ∃ visited,
      (a.tree.walk (fun seen n => .ok (seen ++ [n])) root [] : Except Empty (List Nat)) =
          .ok visited ∧
        (∀ query : Query, query.staysBelow = true → ∀ found,
          query.search a.tree options (.node root) = .ok found →
            ∀ n ∈ found, n = root ∨ n ∈ visited) ∧
        ∀ (ruleSet : RuleSet) found,
          ruleSet.search a.tree options (.node root) = .ok found →
            ∀ n ∈ found, n = root ∨ n ∈ visited := by
  have hclosed := a.tree.isClosed_subtree (fun _ _ _ h _ hc => a.mem_childNodes_of_accessor h hc)
    root
  have hroot : (Slot.node root).IsInside
      fun n => n = root ∨ n ∈ a.tree.descendants root := isInside_node.mpr (.inl rfl)
  exact ⟨_, a.tree.walk_record root,
    fun query hbelow found h n hn => query.inside_of_mem_search hclosed hbelow hroot h hn,
    fun ruleSet found h n hn => ruleSet.inside_of_mem_search hclosed hroot h hn⟩

/-- A call with two arguments, one of them in a transparent group. -/
def groupedCall : Arena where
  nodes := #[{ kind := "arg", source := "x" }, { kind := "arg", source := "y" },
    { kind := "group", source := "(y)", entries := [⟨none, .node 1⟩] },
    { kind := "call", source := "f(x, (y))", entries := [⟨some "args", .list [.node 0, .node 2]⟩] }]
  transparentKinds := ["group"]
  held_lt := by decide

/-- The arguments as children of the call, as what a wildcard over its list leads to, and those
before a group. -/
def argumentsQuery : Query :=
  let arg : Selector := { kindTest := some ⟨"arg", []⟩ }
  [.link { kindTest := some ⟨"call", []⟩ } (.last { combinator := some .child, next := some arg }),
    .last { scope := some ⟨[.name "args", .wildcard]⟩, next := some arg },
    .last { arg with
      pseudoTest := some ⟨.has, [.last {
        combinator := some .nextSibling, next := some { kindTest := some ⟨"group", []⟩ } }]⟩ }]

/-- The nodes whose source is `y`. -/
def argumentRules : RuleSet := ⟨[⟨["source"], .symbol "y"⟩]⟩

/-- Both arguments are found as children and through the list, the first one once more before the
group, and the walk has visited them. -/
theorem found_below_groupedCall :
    argumentsQuery.staysBelow = true ∧
      argumentsQuery.search groupedCall.tree {} (.node 3) = .ok [0, 1, 0, 1, 0] ∧
      argumentRules.search groupedCall.tree {} (.node 3) = .ok [1] ∧
      ∃ visited,
        (groupedCall.tree.walk (fun seen n => .ok (seen ++ [n])) 3 [] : Except Empty (List Nat)) =
            .ok visited ∧
          (∀ n ∈ [0, 1, 0, 1, 0], n = 3 ∨ n ∈ visited) ∧ ∀ n ∈ [1], n = 3 ∨ n ∈ visited := by
  have hquery : argumentsQuery.search groupedCall.tree {} (.node 3) = .ok [0, 1, 0, 1, 0] := by cbv
  have hrules : argumentRules.search groupedCall.tree {} (.node 3) = .ok [1] := by cbv
  obtain ⟨visited, hvisited, hfound, hfoundByRules⟩ := found_below groupedCall 3 {}
  exact ⟨rfl, hquery, hrules, visited, hvisited, hfound _ rfl _ hquery, hfoundByRules _ _ hrules⟩

end Arena

end TreeQuery
