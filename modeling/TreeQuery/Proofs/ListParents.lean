import Mathlib.Data.List.MinMax
import TreeQuery.Arena
import TreeQuery.Proofs.Query.Searching
import TreeQuery.Query.Parser

/-!
# Lists that act as parents

A scope may lead to a list, and a child combinator behind it takes that list for a parent: the nodes
of the list are tested as its children. The path `children` leads to the list of a node's own child
slots, so that `children > .item` asks for the children as `> .item` does.

It asks for them **as they stand in the list**. A transparent wrapper among them is tested itself,
where the children of a node are tested with every wrapper replaced by what it wraps. The two
queries have the same outcome for every compound exactly when no child is transparent.

## Main definitions and results

* `Selector.child`, `Selector.childOf` — a child combinator by itself and behind a scope.
* `Selector.search_child`, `Selector.search_childOf`: which nodes each of them tests.
* `Tree.exists_not_mem_unwrapped`: replacing wrappers loses one of them.
* `Arena.sameOutcome_children_iff`: **when a list of children acts as the parent does**.
-/

namespace TreeQuery

/-! ### Outcomes -/

namespace Fallible

variable {α ε : Type}

/-- Both operations fail, or they have the same result. -/
inductive SameOutcome : Except ε α → Except ε α → Prop where
  /-- Both fail. -/
  | failures (error error' : ε) : SameOutcome (.error error) (.error error')
  /-- They have the same result. -/
  | results (a : α) : SameOutcome (.ok a) (.ok a)

/-- An operation has the outcome that it has. -/
theorem SameOutcome.refl (x : Except ε α) : SameOutcome x x := by
  cases x with
  | error error => exact .failures error error
  | ok a => exact .results a

/-- Results with the same outcome are the same. -/
theorem SameOutcome.eq_of_ok {a b : α} (h : SameOutcome (.ok a : Except ε α) (.ok b)) : a = b := by
  cases h
  rfl

end Fallible

open Fallible

variable {ν : Type} {t : Tree ν} {options : Options}

/-! ### Child combinators -/

namespace Selector

/-- The selector `> compound`. -/
def child (compound : Selector) : Selector :=
  { combinator := some .child, next := some compound }

/-- The selector `path > compound`. -/
def childOf (path : KeyPath) (compound : Selector) : Selector :=
  { scope := some path, next := some compound.child }

/-- Whether a selector tests nodes and does not move. -/
def isCompound : Selector → Bool
  | ⟨none, none, none, kindTest, pseudoTest, position⟩ =>
    kindTest.isSome || pseudoTest.isSome || position.isSome
  | _ => false

/-- Those of several nodes that pass a compound, as its position picks them. -/
def pick (t : Tree ν) (compound : Selector) (ns : List ν) : Except MatchError (List ν) :=
  Fallible.filter (fun n => compound.holds t n n) ns >>= fun passed =>
    .ok (Position.keep compound.position passed)

/-- A child combinator tests the nodes that it leads to. -/
theorem search_child (compound : Selector) (slot : Slot ν) :
    compound.child.search t options slot = compound.pick t (t.reached .child slot) := by
  rw [child, search]
  rfl

/-- Behind a scope it tests those that it leads to from the end of the path. -/
theorem search_childOf (path : KeyPath) (compound : Selector) (n : ν) :
    (compound.childOf path).search t options (.node n) =
      compound.pick t (t.reached .child (t.resolve n path)) := by
  rw [childOf, search]
  exact (gather_singleton _ n).trans (search_child compound _)

/-- A kind picks the nodes of that kind. -/
theorem pick_kind (kind : String) (ns : List ν) :
    pick t { kindTest := some ⟨kind, []⟩ } ns = .ok (ns.filter fun n => t.kind n == kind) := by
  have hholds : ∀ n ∈ ns, Selector.holds t n { kindTest := some ⟨kind, []⟩ } n =
      .ok (t.kind n == kind) := by
    intro n _
    rw [holds_eq]
    dsimp only [Option.elim]
    rw [KindTest.holds]
    by_cases hkind : t.kind n = kind
    · simp [hkind, Attribute.allHold, bind, Except.bind]
    · simp [hkind, bind, Except.bind]
  rw [pick, filter_eq_ok hholds]
  rfl

end Selector

/-! ### The children of a node -/

namespace Tree

/-- The path to the child slots of a node. -/
def childrenPath : KeyPath := ⟨[.name "children"]⟩

/-- Several nodes with every transparent one replaced by its children. -/
def unwrapped (t : Tree ν) (ns : List ν) : List ν :=
  ns.flatMap fun c => if t.isTransparent c then t.childNodes c else [c]

/-- From a node the combinator for children leads to its children, out of their wrappers. -/
theorem reached_child_node (t : Tree ν) (n : ν) :
    t.reached .child (.node n) = t.unwrapped (t.childNodes n) := rfl

/-- The path leads to the child slots where no accessor has its name. -/
theorem resolve_childrenPath {n : ν} (h : t.accessor n "children" = none) :
    t.resolve n childrenPath = .list (t.children n) := by
  simp [resolve, childrenPath, resolveFrom, step, nodeStep, commonStep, h]

/-- **The list of child slots holds the children as they are.** -/
theorem reached_child_childrenPath {n : ν} (h : t.accessor n "children" = none) :
    t.reached .child (t.resolve n childrenPath) = t.childNodes n := by
  rw [resolve_childrenPath h]
  rfl

/-- Where nothing is wrapped, there is nothing to unwrap. -/
theorem unwrapped_eq_self {ns : List ν} (h : ∀ c ∈ ns, t.isTransparent c = false) :
    t.unwrapped ns = ns := by
  have hsingle : t.unwrapped ns = ns.flatMap fun c => [c] :=
    List.flatMap_congr fun c hc => by rw [h c hc]; rfl
  rw [hsingle, List.flatMap_singleton']

/-- **Replacing wrappers loses one of them.** The highest one is neither kept nor a child of
another, since a child is lower than its parent. -/
theorem exists_not_mem_unwrapped {ns : List ν} (h : ∃ c ∈ ns, t.isTransparent c = true) :
    ∃ c ∈ ns, c ∉ t.unwrapped ns := by
  obtain ⟨c, hc, htransparent⟩ := h
  have hwrapper : c ∈ ns.filter t.isTransparent := List.mem_filter.mpr ⟨hc, htransparent⟩
  cases hhighest : (ns.filter t.isTransparent).argmax t.height with
  | none =>
    rw [List.argmax_eq_none.mp hhighest] at hwrapper
    cases hwrapper
  | some w =>
    obtain ⟨hw, hwtransparent⟩ := List.mem_filter.mp (List.argmax_mem hhighest)
    refine ⟨w, hw, fun hmem => ?_⟩
    obtain ⟨d, hd, hwd⟩ := List.mem_flatMap.mp hmem
    by_cases hdtransparent : t.isTransparent d = true
    · rw [if_pos hdtransparent] at hwd
      have hlower : t.height w < t.height d := t.height_lt_of_mem_childNodes hwd
      have hhigher : t.height d ≤ t.height w :=
        List.le_of_mem_argmax (List.mem_filter.mpr ⟨hd, hdtransparent⟩) hhighest
      omega
    · rw [if_neg hdtransparent] at hwd
      obtain rfl := List.mem_singleton.mp hwd
      exact hdtransparent hwtransparent

end Tree

/-! ### Both queries -/

namespace Arena

/-- A node without an entry for its children leads to the list of its child slots. -/
theorem accessor_children_eq_none {a : Arena} {n : Nat}
    (h : ∀ entry ∈ (a.node n).entries, entry.name ≠ some "children") :
    a.tree.accessor n "children" = none := by
  have hfind : (a.node n).entries.find? (fun entry => entry.name == some "children") = none := by
    rw [List.find?_eq_none]
    intro entry hentry
    simpa using h entry hentry
  simp [tree, hfind]

/-- **When a list of children acts as the parent does.** Let no entry of a node have the name
`children`. Then `children > compound` tests the nodes that the node holds, and `> compound` tests
them with every transparent one replaced by its children. Both have the same outcome, whatever the
compound and the options, exactly when none of them is transparent. -/
theorem sameOutcome_children_iff (a : Arena) {n : Nat}
    (h : ∀ entry ∈ (a.node n).entries, entry.name ≠ some "children") :
    (∀ (compound : Selector) (options : Options),
      (compound.childOf Tree.childrenPath).search a.tree options (.node n) =
          compound.pick a.tree (a.node n).held ∧
        compound.child.search a.tree options (.node n) =
          compound.pick a.tree (a.tree.unwrapped (a.node n).held)) ∧
    ((∀ (compound : Selector) (options : Options), compound.isCompound = true →
        SameOutcome ((compound.childOf Tree.childrenPath).search a.tree options (.node n))
          (compound.child.search a.tree options (.node n))) ↔
      ∀ c ∈ (a.node n).held, a.tree.isTransparent c = false) := by
  have hlist : ∀ (compound : Selector) (options : Options),
      (compound.childOf Tree.childrenPath).search a.tree options (.node n) =
        compound.pick a.tree (a.node n).held := by
    intro compound options
    rw [Selector.search_childOf, Tree.reached_child_childrenPath (accessor_children_eq_none h),
      childNodes_tree]
  have hparent : ∀ (compound : Selector) (options : Options),
      compound.child.search a.tree options (.node n) =
        compound.pick a.tree (a.tree.unwrapped (a.node n).held) := by
    intro compound options
    rw [Selector.search_child, Tree.reached_child_node, childNodes_tree]
  refine ⟨fun compound options => ⟨hlist compound options, hparent compound options⟩, ?_, ?_⟩
  · intro hsame c hc
    by_contra htransparent
    -- the wrapper that is lost tells the two apart by its kind
    obtain ⟨w, hw, hlost⟩ := Tree.exists_not_mem_unwrapped
      ⟨c, hc, Bool.eq_true_of_not_eq_false htransparent⟩
    have hkind := hsame { kindTest := some ⟨a.tree.kind w, []⟩ } {} rfl
    rw [hlist, hparent, Selector.pick_kind, Selector.pick_kind] at hkind
    have hmem : w ∈ (a.node n).held.filter fun m => a.tree.kind m == a.tree.kind w := by
      simp [hw]
    rw [hkind.eq_of_ok] at hmem
    exact hlost (List.mem_of_mem_filter hmem)
  · intro hopaque compound options _
    rw [hlist, hparent, Tree.unwrapped_eq_self hopaque]
    exact .refl _

end Arena

/-- A list of two items, one of them in a transparent wrapper, and a list of one item without
one. -/
def wrappedItem : Arena where
  nodes := #[{ kind := "item", source := "x" }, { kind := "item", source := "y" },
    { kind := "begin", source := "(y)", entries := [⟨none, .node 1⟩] },
    { kind := "list", source := "[x, (y)]", entries := [⟨none, .list [.node 0, .node 2]⟩] },
    { kind := "list", source := "[x]", entries := [⟨none, .list [.node 0, .absent]⟩] }]
  transparentKinds := ["begin"]
  held_lt := by decide

/-- The last item. -/
def lastItem : Selector := { kindTest := some ⟨"item", []⟩, position := some .last }

example : Query.ofText "children > .item:last-child" =
    .ok [.last (lastItem.childOf Tree.childrenPath)] := by cbv

/-- The list without a wrapper acts as the parent, and the other one does not. -/
theorem Arena.sameOutcome_children_iff_wrappedItem :
    (∀ entry ∈ (wrappedItem.node 4).entries, entry.name ≠ some "children") ∧
      (∀ c ∈ (wrappedItem.node 4).held, wrappedItem.tree.isTransparent c = false) ∧
      SameOutcome ((lastItem.childOf Tree.childrenPath).search wrappedItem.tree {} (.node 4))
        (lastItem.child.search wrappedItem.tree {} (.node 4)) ∧
      (lastItem.childOf Tree.childrenPath).search wrappedItem.tree {} (.node 4) = .ok [0] ∧
      (∀ entry ∈ (wrappedItem.node 3).entries, entry.name ≠ some "children") ∧
      lastItem.child.search wrappedItem.tree {} (.node 3) = .ok [1] := by
  have hflat : ∀ entry ∈ (wrappedItem.node 4).entries, entry.name ≠ some "children" := by decide
  have hwrapped : ∀ entry ∈ (wrappedItem.node 3).entries, entry.name ≠ some "children" := by
    decide
  have hopaque : ∀ c ∈ (wrappedItem.node 4).held, wrappedItem.tree.isTransparent c = false := by
    decide
  obtain ⟨hfound, hiff⟩ := sameOutcome_children_iff wrappedItem hflat
  obtain ⟨hfound', -⟩ := sameOutcome_children_iff wrappedItem hwrapped
  exact ⟨hflat, hopaque, hiff.mpr hopaque lastItem {} rfl, (hfound lastItem {}).1.trans rfl,
    hwrapped, (hfound' lastItem {}).2.trans rfl⟩

/-- **A list of children does not always act as the parent.** The last item below the first list is
in a wrapper, which the list of children does not unwrap. -/
theorem Arena.not_forall_sameOutcome_children :
    ¬ ∀ (a : Arena) (n : Nat), (∀ entry ∈ (a.node n).entries, entry.name ≠ some "children") →
      ∀ (compound : Selector) (options : Options), compound.isCompound = true →
        SameOutcome ((compound.childOf Tree.childrenPath).search a.tree options (.node n))
          (compound.child.search a.tree options (.node n)) := by
  intro h
  have hsame := h wrappedItem 3 (by decide) lastItem {} rfl
  have hlist : (lastItem.childOf Tree.childrenPath).search wrappedItem.tree {} (.node 3) =
      .ok [0] := rfl
  have hparent : lastItem.child.search wrappedItem.tree {} (.node 3) = .ok [1] := rfl
  rw [hlist, hparent] at hsame
  cases hsame.eq_of_ok

end TreeQuery
