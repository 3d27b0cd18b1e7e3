import TreeQuery.Proofs.Query.FirstMatch

/-!
# Searching a slot node by node

A search starts from a slot, which may hold several nodes in lists in lists. It goes through the
slots of a list in turn, and **what is found from a slot is what is found from its nodes one by
one**, in order.

For a chain this takes an argument. Its first selector is run on the whole slot before the second
one is run on anything, whereas node by node the whole chain is run on one node before the next.
The two orders meet different errors first, so that they do not fail alike; but **they succeed
alike, and with the same nodes**. A move at the head of a chain is the exception: it takes the slot
as a whole.

## Main definitions and results

* `Slot.inTurn` — a search that goes through the slots of a list in turn.
* `Slot.inTurn_eq_gather`: it gathers what is found from the nodes.
* `FoundOneByOne` — what is found from a slot is what is found from its nodes.
* `Fallible.gather_bind_gather_eq_ok_iff`: the exchange of the two orders.
* `search_one_by_one`: rule sets, chains and queries search node by node.
-/

namespace TreeQuery

open Fallible

variable {ν ε : Type}

/-! ### Going through a slot -/

mutual

/-- What a search lists from a slot when it goes through the slots of a list in turn, down to the
nodes. -/
def Slot.inTurn (find : ν → Except ε (List ν)) : Slot ν → Except ε (List ν)
  | .node n => find n
  | .list items => Slot.allInTurn find items
  | _ => .ok []

/-- What it lists from several slots in turn. -/
def Slot.allInTurn (find : ν → Except ε (List ν)) : List (Slot ν) → Except ε (List ν)
  | [] => .ok []
  | slot :: slots => do
    let found ← Slot.inTurn find slot
    let others ← Slot.allInTurn find slots
    return found ++ others

end

mutual

/-- **Going through a slot gathers from its nodes**, and fails as gathering does. -/
theorem Slot.inTurn_eq_gather (find : ν → Except ε (List ν)) :
    ∀ slot : Slot ν, slot.inTurn find = gather find slot.nodes
  | .node n => (gather_singleton find n).symm
  | .list items => Slot.allInTurn_eq_gather find items
  | .text _ | .symbol _ | .integer _ | .float _ | .boolean _ | .absent => rfl

/-- Going through several slots in turn gathers from their nodes. -/
theorem Slot.allInTurn_eq_gather (find : ν → Except ε (List ν)) :
    ∀ slots : List (Slot ν), Slot.allInTurn find slots = gather find (Slot.nodesOfAll slots)
  | [] => rfl
  | slot :: slots => by
    rw [allInTurn, nodesOfAll, gather_append, inTurn_eq_gather find slot,
      allInTurn_eq_gather find slots]
    rfl

end

/-- What is found from a slot is what is found from its nodes, one after the other. -/
structure FoundOneByOne (find : Slot ν → Except ε (List ν)) (slot : Slot ν) : Prop where
  /-- The search succeeds from the slot exactly when it succeeds from every node of it. -/
  succeeds_iff : Succeeds (find slot) ↔ ∀ n ∈ slot.nodes, Succeeds (find (.node n))
  /-- What it finds then is what it finds from the nodes, in order. -/
  eq_flatMap : ∀ all, find slot = .ok all → ∃ found : ν → List ν,
    (∀ n ∈ slot.nodes, find (.node n) = .ok (found n)) ∧ all = slot.nodes.flatMap found

/-- A search that gathers from the nodes, except perhaps for which error it meets first, finds one
by one. -/
theorem foundOneByOne_of_eq_ok_iff {find : Slot ν → Except ε (List ν)} {slot : Slot ν}
    (h : ∀ all, find slot = .ok all ↔ gather (fun n => find (.node n)) slot.nodes = .ok all) :
    FoundOneByOne find slot where
  succeeds_iff := (exists_congr h).trans gather_succeeds_iff
  eq_flatMap all hall := exists_found_of_gather_eq_ok ((h all).mp hall)

/-! ### Selectors, rule sets and chains -/

/-- Gathering from the nodes of a slot is gathering from each node as a slot. -/
theorem Slot.gather_nodes {β : Type} (find : ν → Except ε (List β)) (slot : Slot ν) :
    gather find slot.nodes = gather (fun n => gather find (node n).nodes) slot.nodes :=
  gather_congr fun n _ => (gather_singleton find n).symm

variable {t : Tree ν} {options : Options}

/-- A rule set gathers what it finds from the nodes of a slot. -/
theorem RuleSet.search_eq_gather_nodes (ruleSet : RuleSet) (slot : Slot ν) :
    ruleSet.search t options slot =
      gather (fun n => ruleSet.search t options (.node n)) slot.nodes :=
  slot.gather_nodes _

/-- A selector without a combinator gathers what it finds from the nodes of a slot. -/
theorem Selector.search_eq_gather_nodes {selector : Selector}
    (hcombinator : selector.combinator = none) (slot : Slot ν) :
    selector.search t options slot =
      gather (fun n => selector.search t options (.node n)) slot.nodes := by
  cases hscope : selector.scope with
  | none =>
    simp only [Selector.search_eq hscope hcombinator]
    exact slot.gather_nodes _
  | some path =>
    obtain ⟨scope, combinator, next, kindTest, pseudoTest, position⟩ := selector
    obtain rfl : combinator = none := hcombinator
    obtain rfl : scope = some path := hscope
    cases next with
    | none =>
      have hnothing : slot.nodes.flatMap (fun _ => ([] : List ν)) = [] := by simp
      exact ((gather_eq_ok fun _ _ => rfl).trans (congrArg Except.ok hnothing)).symm
    | some next => exact slot.gather_nodes _

/-- **A chain whose head has no combinator finds what it finds from the nodes of the slot.** -/
theorem Chain.search_eq_ok_iff {chain : Chain} (hhead : chain.head.combinator = none)
    {slot : Slot ν} {all : List ν} :
    chain.search t options slot = .ok all ↔
      gather (fun n => chain.search t options (.node n)) slot.nodes = .ok all := by
  cases chain with
  | last selector =>
    change selector.combinator = none at hhead
    rw [Chain.search, Selector.search_eq_gather_nodes hhead]
    rfl
  | link selector rest =>
    change selector.combinator = none at hhead
    rw [Chain.search, Selector.search_eq_gather_nodes hhead]
    exact gather_bind_gather_eq_ok_iff

/-- **A chain whose first link has no combinator finds from a slot what it finds from the nodes of
the slot.** -/
theorem Chain.foundOneByOne {chain : Chain} (hhead : chain.head.combinator = none) (slot : Slot ν) :
    FoundOneByOne (chain.search t options) slot :=
  foundOneByOne_of_eq_ok_iff fun _ => Chain.search_eq_ok_iff hhead

/-! ### Queries -/

variable {query : Query} (hheads : ∀ chain ∈ query, chain.head.combinator = none) {slot : Slot ν}

include hheads

/-- A query whose alternatives begin without a combinator succeeds from a slot exactly when each of
them does from each node. -/
theorem Query.search_succeeds_iff :
    Succeeds (query.search t options slot) ↔
      ∀ chain ∈ query, ∀ n ∈ slot.nodes, Succeeds (chain.search t options (.node n)) := by
  rw [search_eq_gather, gather_succeeds_iff]
  exact forall₂_congr fun chain hchain =>
    (Chain.foundOneByOne (hheads chain hchain) slot).succeeds_iff

/-- A search from a slot lists, alternative by alternative, what the alternative finds from each of
the nodes. -/
theorem Query.exists_found_of_search_eq_ok {all : List ν}
    (hall : query.search t options slot = .ok all) :
    ∃ found : Chain → ν → List ν,
      (∀ chain ∈ query, ∀ n ∈ slot.nodes, chain.search t options (.node n) = .ok (found chain n)) ∧
      all = query.flatMap fun chain => slot.nodes.flatMap (found chain) := by
  have hsucceeds := (Query.search_succeeds_iff hheads).mp ⟨all, hall⟩
  obtain ⟨found, hfound⟩ :=
    exists_results (f := fun p : Chain × ν => p.1.search t options (.node p.2))
    (p := fun p => p.1 ∈ query ∧ p.2 ∈ slot.nodes) fun p hp => hsucceeds p.1 hp.1 p.2 hp.2
  refine ⟨fun chain n => found (chain, n),
    fun chain hchain n hn => hfound (chain, n) ⟨hchain, hn⟩, ?_⟩
  have hslot : ∀ chain ∈ query, chain.search t options slot =
      .ok (slot.nodes.flatMap fun n => found (chain, n)) := by
    intro chain hchain
    refine (Chain.search_eq_ok_iff (hheads chain hchain)).mpr ?_
    exact gather_eq_ok fun n hn => hfound (chain, n) ⟨hchain, hn⟩
  rw [search_eq_gather, gather_eq_ok hslot] at hall
  exact (Except.ok.inj hall).symm

omit hheads

/-- **A slot is searched node by node.** A rule set, a selector without a combinator and a chain
that begins with one succeed from a slot exactly when they succeed from each node of it, and then
they list what they find from the nodes in order; the first two go through the slot in turn and fail
alike as well. A query of such chains lists this alternative by alternative. -/
theorem search_one_by_one (t : Tree ν) (options : Options) (slot : Slot ν) :
    (∀ ruleSet : RuleSet,
      ruleSet.search t options slot = slot.inTurn (fun n => ruleSet.search t options (.node n)) ∧
      FoundOneByOne (ruleSet.search t options) slot) ∧
    (∀ selector : Selector, selector.combinator = none →
      selector.search t options slot = slot.inTurn fun n => selector.search t options (.node n)) ∧
    (∀ chain : Chain, chain.head.combinator = none →
      FoundOneByOne (chain.search t options) slot) ∧
    ∀ query : Query, (∀ chain ∈ query, chain.head.combinator = none) →
      (Succeeds (query.search t options slot) ↔
        ∀ chain ∈ query, ∀ n ∈ slot.nodes, Succeeds (chain.search t options (.node n))) ∧
      ∀ all, query.search t options slot = .ok all → ∃ found : Chain → ν → List ν,
        (∀ chain ∈ query, ∀ n ∈ slot.nodes,
          chain.search t options (.node n) = .ok (found chain n)) ∧
        all = query.flatMap fun chain => slot.nodes.flatMap (found chain) := by
  refine ⟨fun ruleSet => ⟨?_, ?_⟩, fun selector hcombinator => ?_,
    fun chain hhead => Chain.foundOneByOne hhead slot, fun query hheads => ⟨?_, fun all => ?_⟩⟩
  · rw [Slot.inTurn_eq_gather]
    exact ruleSet.search_eq_gather_nodes slot
  · exact foundOneByOne_of_eq_ok_iff fun all =>
      iff_of_eq (congrArg (· = .ok all) (ruleSet.search_eq_gather_nodes slot))
  · rw [Slot.inTurn_eq_gather]
    exact Selector.search_eq_gather_nodes hcombinator slot
  · exact Query.search_succeeds_iff hheads
  · exact Query.exists_found_of_search_eq_ok hheads

/-- The items in the last of the lists among the children, and all items: a scope, a position and a
further link, and a search of its own. -/
def itemsOfLastList : Query :=
  [.link { scope := some ⟨[.name "children"]⟩,
           next := some { kindTest := some ⟨"list", []⟩, position := some .last } }
      (.last { kindTest := some ⟨"item", []⟩ }),
    .last { kindTest := some ⟨"item", []⟩ }]

/-- The root and, in a further list, the filled one of its lists. -/
def nestedSlot : Slot Nat := .list [.node 3, .absent, .list [.text "x", .node 2]]

/-- The first alternative finds the item from the root alone, the second one from both nodes. -/
theorem search_one_by_one_nestedSlot :
    (∀ chain ∈ itemsOfLastList, chain.head.combinator = none) ∧
      itemsOfLastList.search twoLists.tree {} nestedSlot = .ok [1, 1, 1] ∧
      (∀ chain ∈ itemsOfLastList, FoundOneByOne (chain.search twoLists.tree {}) nestedSlot) ∧
      ∃ found : Chain → Nat → List Nat,
        (∀ chain ∈ itemsOfLastList, ∀ n ∈ [3, 2],
          chain.search twoLists.tree {} (.node n) = .ok (found chain n)) ∧
        [1, 1, 1] = itemsOfLastList.flatMap fun chain => [3, 2].flatMap (found chain) := by
  have hheads : ∀ chain ∈ itemsOfLastList, chain.head.combinator = none := by
    simp [itemsOfLastList, Chain.head]
  have hall : itemsOfLastList.search twoLists.tree {} nestedSlot = .ok [1, 1, 1] := by cbv
  obtain ⟨-, -, hchain, hquery⟩ := search_one_by_one twoLists.tree {} nestedSlot
  exact ⟨hheads, hall, fun chain hmem => hchain chain (hheads chain hmem),
    (hquery itemsOfLastList hheads).2 _ hall⟩

end TreeQuery
