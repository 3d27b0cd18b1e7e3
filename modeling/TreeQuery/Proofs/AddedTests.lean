import TreeQuery.Proofs.Narrowing
import TreeQuery.Proofs.Query.EqualQueries
import TreeQuery.Proofs.Subtree

/-!
# Adding tests

A query that asks for more attributes accepts fewer nodes, and a rule set with more conditions holds
of fewer. What is found by one link of a chain is where the next link starts, so that fewer nodes
there mean fewer searches behind, each of which again finds less. So where neither of the two
queries fails, **the one with more attributes finds some of the nodes that the other one finds, in
the same order**.

A position breaks this, since the first of fewer nodes may be another node, and so does an option
that stops at the first match.

## Main definitions and results

* `Fallible.SomeOf` — listing some of what another operation lists, where both succeed.
* `Query.Extends` — a query made from another one by adding attributes to its selectors, also behind
  their moves, but not inside values and pseudo classes.
* `Selector.Extends.accepts`: a selector with more attributes accepts fewer nodes.
* `sublist_of_extends`: **more attributes and more rules only narrow what is found**.
-/

namespace TreeQuery

/-! ### Listing some -/

namespace Fallible

variable {α β ε : Type}

/-- Where both operations succeed, `part` lists some of the elements that `whole` lists, in the same
order. -/
def SomeOf (part whole : Except ε (List α)) : Prop :=
  ∀ kept all, part = .ok kept → whole = .ok all → kept.Sublist all

/-- Of what an operation lists, it lists some itself. -/
theorem SomeOf.refl (whole : Except ε (List α)) : SomeOf whole whole := by
  intro kept all hkept hall
  obtain rfl := Except.ok.inj (hkept.symm.trans hall)
  exact .refl kept

/-- Two operations in a row list some of what two others in a row list, if each does. -/
theorem SomeOf.append {part part' whole whole' : Except ε (List α)} (h : SomeOf part whole)
    (h' : SomeOf part' whole') :
    SomeOf (part >>= fun a => part' >>= fun b => .ok (a ++ b))
      (whole >>= fun a => whole' >>= fun b => .ok (a ++ b)) := by
  intro kept all hkept hall
  obtain ⟨kept₁, kept₂, hkept₁, hkept₂, rfl⟩ := bind_bind_ok_eq_ok.mp hkept
  obtain ⟨all₁, all₂, hall₁, hall₂, rfl⟩ := bind_bind_ok_eq_ok.mp hall
  exact (h kept₁ all₁ hkept₁ hall₁).append (h' kept₂ all₂ hkept₂ hall₂)

/-- From some of the elements some of the lists are gathered. -/
theorem gather_someOf {find find' : α → Except ε (List β)} {part whole : List α}
    (h : part.Sublist whole) (hfind : ∀ a, SomeOf (find a) (find' a)) :
    SomeOf (gather find part) (gather find' whole) := by
  induction h with
  | slnil => exact .refl _
  | cons a _ ih =>
    intro kept all hkept hall
    obtain ⟨first, others, -, hothers, rfl⟩ := gather_cons_eq_ok.mp hall
    exact (ih kept others hkept hothers).trans (List.sublist_append_right first others)
  | cons_cons a _ ih => exact (hfind a).append ih

/-- What is gathered from some of what is found is some of what is gathered. -/
theorem SomeOf.gather {find find' : α → Except ε (List β)} {part whole : Except ε (List α)}
    (h : SomeOf part whole) (hfind : ∀ a, SomeOf (find a) (find' a)) :
    SomeOf (part >>= gather find) (whole >>= gather find') := by
  intro kept all hkept hall
  obtain ⟨starts, hstarts, hkept⟩ := bind_eq_ok.mp hkept
  obtain ⟨starts', hstarts', hall⟩ := bind_eq_ok.mp hall
  exact gather_someOf (h starts starts' hstarts hstarts') hfind kept all hkept hall

/-- Fewer elements pass a stricter test. -/
theorem filter_someOf {test test' : α → Except ε Bool}
    (h : ∀ a, test a = .ok true → test' a = .ok true) (as : List α) :
    SomeOf (filter test as) (filter test' as) := by
  induction as with
  | nil => exact .refl _
  | cons a as ih =>
    intro kept all hkept hall
    obtain ⟨passes, kept', hpasses, hkept', rfl⟩ := filter_cons_eq_ok.mp hkept
    obtain ⟨passes', all', hpasses', hall', rfl⟩ := filter_cons_eq_ok.mp hall
    have hsublist : kept'.Sublist all' := ih kept' all' hkept' hall'
    cases passes with
    | false =>
      cases passes' with
      | false => exact hsublist
      | true => exact hsublist.cons a
    | true =>
      obtain rfl : true = passes' := Except.ok.inj ((h a hpasses).symm.trans hpasses')
      exact hsublist.cons_cons a

end Fallible

open Fallible

variable {ν : Type} {t : Tree ν} {options : Options}

/-! ### Selectors with more attributes -/

/-- A test by kind asks for the same kind and for all attributes of another one. -/
def KindTest.Extends (test' test : KindTest) : Prop :=
  test'.kind = test.kind ∧ test.attributes.Sublist test'.attributes

/-- Attributes may stand behind those that are there. -/
theorem KindTest.extends_append (kind : String) (attributes more : List Attribute) :
    KindTest.Extends ⟨kind, attributes ++ more⟩ ⟨kind, attributes⟩ :=
  ⟨rfl, List.sublist_append_left attributes more⟩

/-- A selector is another one with attributes added to its test by kind, and to those of the
selectors behind its moves. -/
inductive Selector.Extends : Selector → Selector → Prop where
  /-- A selector without one behind it. -/
  | ofTest {scope : Option KeyPath} {combinator : Option Combinator}
      {kindTest kindTest' : Option KindTest} {pseudoTest : Option PseudoTest}
      {position : Option Position} : Option.Rel KindTest.Extends kindTest' kindTest →
      Extends ⟨scope, combinator, none, kindTest', pseudoTest, position⟩
        ⟨scope, combinator, none, kindTest, pseudoTest, position⟩
  /-- A selector with one behind it. -/
  | ofNext {scope : Option KeyPath} {combinator : Option Combinator} {next next' : Selector}
      {kindTest kindTest' : Option KindTest} {pseudoTest : Option PseudoTest}
      {position : Option Position} : Option.Rel KindTest.Extends kindTest' kindTest →
      Extends next' next →
      Extends ⟨scope, combinator, some next', kindTest', pseudoTest, position⟩
        ⟨scope, combinator, some next, kindTest, pseudoTest, position⟩

/-- A chain is another one with attributes added to its selectors. -/
inductive Chain.Extends : Chain → Chain → Prop where
  /-- The last selector. -/
  | last {selector selector' : Selector} : selector'.Extends selector →
      Extends (.last selector') (.last selector)
  /-- A selector and the chain behind it. -/
  | link {selector selector' : Selector} {rest rest' : Chain} : selector'.Extends selector →
      Extends rest' rest → Extends (.link selector' rest') (.link selector rest)

/-- A query is another one with attributes added to the selectors of its chains. -/
def Query.Extends (query' query : Query) : Prop := List.Forall₂ Chain.Extends query' query

namespace Selector.Extends

variable {selector selector' : Selector}

/-- The test by kind has attributes added at most. -/
theorem kindTest (h : selector'.Extends selector) :
    Option.Rel KindTest.Extends selector'.kindTest selector.kindTest := by
  cases h <;> assumption

theorem scope (h : selector'.Extends selector) : selector'.scope = selector.scope := by
  cases h <;> rfl

theorem combinator (h : selector'.Extends selector) :
    selector'.combinator = selector.combinator := by
  cases h <;> rfl

theorem pseudoTest (h : selector'.Extends selector) :
    selector'.pseudoTest = selector.pseudoTest := by
  cases h <;> rfl

theorem position (h : selector'.Extends selector) : selector'.position = selector.position := by
  cases h <;> rfl

/-- Attributes are no positions. -/
theorem isUnplaced (h : selector'.Extends selector) :
    selector'.isUnplaced = selector.isUnplaced := by
  induction h with
  | ofTest _ => rw [Selector.isUnplaced, Selector.isUnplaced]
  | ofNext _ _ ih => rw [Selector.isUnplaced, Selector.isUnplaced, ih]

/-- **What a selector with more attributes accepts is accepted without them.** -/
theorem accepts (h : selector'.Extends selector) {n : ν} (haccepts : selector'.Accepts t n) :
    selector.Accepts t n := by
  obtain ⟨hkind, hattributes, hpseudo⟩ := haccepts
  rw [h.pseudoTest] at hpseudo
  refine ⟨fun test htest => ?_, fun test htest a ha => ?_, hpseudo⟩
  · obtain ⟨test', htest', hsame, -⟩ := exists_of_rel h.kindTest htest
    exact (hkind test' htest').trans hsame
  · obtain ⟨test', htest', -, hmore⟩ := exists_of_rel h.kindTest htest
    exact hattributes test' htest' a (hmore.subset ha)

/-- A node that passes the tests of the selector with more attributes passes those of the other. -/
theorem holds (h : selector'.Extends selector) (n : ν) (hholds : selector'.holds t n n = .ok true) :
    selector.holds t n n = .ok true :=
  Selector.holds_eq_ok_true.mpr (h.accepts (Selector.holds_eq_ok_true.mp hholds))

end Selector.Extends

/-! ### Searches that list all matches -/

/-- A search with a stricter test finds less. -/
theorem Tree.search_someOf (hstop : options.stopAtFirstMatch = false)
    {test test' : ν → Except MatchError Bool} (h : ∀ n, test n = .ok true → test' n = .ok true)
    (n : ν) : SomeOf (t.search options test n) (t.search options test' n) := by
  rw [search_eq, search_eq, hstop]
  exact filter_someOf h (t.candidates options n)

namespace Selector.Extends

variable {selector selector' : Selector}

/-- Below a starting node the selector with more attributes passes some of the nodes that the other
passes. -/
theorem passing_someOf (hstop : options.stopAtFirstMatch = false) (h : selector'.Extends selector)
    (m : ν) : SomeOf (selector'.passing t options m) (selector.passing t options m) := by
  rw [passing, passing, isSome_eq_of_rel h.kindTest]
  split
  · exact Tree.search_someOf hstop h.holds m
  · split
    · exact filter_someOf h.holds [m]
    · exact .refl _

/-- A selector that does not move finds less with more attributes, from every slot. -/
theorem search_someOf_compound (hstop : options.stopAtFirstMatch = false)
    (h : selector'.Extends selector) (hplain : selector.isUnplaced = true)
    (hscope : selector.scope = none) (hcombinator : selector.combinator = none) (slot : Slot ν) :
    SomeOf (selector'.search t options slot) (selector.search t options slot) := by
  have hplain' := h.isUnplaced.trans hplain
  rw [search_eq_gather_passing hscope hcombinator (position_of_isUnplaced hplain),
    search_eq_gather_passing (h.scope.trans hscope) (h.combinator.trans hcombinator)
      (position_of_isUnplaced hplain')]
  exact gather_someOf (.refl _) (h.passing_someOf hstop)

/-- **A selector with more attributes finds less**, whatever its move. -/
theorem search_someOf (hstop : options.stopAtFirstMatch = false) (h : selector'.Extends selector)
    (hplain : selector.isUnplaced = true) (slot : Slot ν) :
    SomeOf (selector'.search t options slot) (selector.search t options slot) := by
  induction h generalizing slot with
  | @ofTest scope combinator _ _ _ _ hkind =>
    rcases combinator with _ | combinator
    · rcases scope with _ | path
      · exact (ofTest hkind).search_someOf_compound hstop hplain rfl rfl slot
      · exact .refl _
    · exact .refl _
  | @ofNext scope combinator next next' _ _ _ _ hkind hnext ih =>
    have hplainNext : next.isUnplaced = true := by
      rw [Selector.isUnplaced, Bool.and_eq_true] at hplain
      exact hplain.2
    rcases combinator with _ | combinator
    · rcases scope with _ | path
      · exact (ofNext hkind hnext).search_someOf_compound hstop hplain rfl rfl slot
      · rw [search, search]
        exact gather_someOf (.refl _) fun n => ih hplainNext (t.resolve n path)
    · -- Behind a combinator every node reached is tested, and without a position all that pass
      -- stay.
      rw [search, search, hnext.position, position_of_isUnplaced hplainNext]
      simp only [Position.keep, bind_pure]
      exact filter_someOf hnext.holds _

end Selector.Extends

/-! ### Queries and rule sets -/

/-- A link searches from fewer nodes, and finds less from each. -/
theorem Chain.Extends.search_someOf (hstop : options.stopAtFirstMatch = false)
    {chain chain' : Chain} (h : chain'.Extends chain) (hplain : chain.isUnplaced = true)
    (slot : Slot ν) : SomeOf (chain'.search t options slot) (chain.search t options slot) := by
  induction h generalizing slot with
  | last hselector => exact hselector.search_someOf hstop hplain slot
  | link hselector _ ih =>
    obtain ⟨hplainSelector, hplainRest⟩ := Bool.and_eq_true_iff.mp hplain
    rw [search, search]
    exact (hselector.search_someOf hstop hplainSelector slot).gather fun n =>
      ih hplainRest (.node n)

/-- **A query with more attributes finds less**: what each of its alternatives finds is some of
what it found without them. -/
theorem Query.Extends.search_someOf (hstop : options.stopAtFirstMatch = false)
    {query query' : Query} (h : query'.Extends query) (hplain : query.isUnplaced = true)
    (slot : Slot ν) : SomeOf (query'.search t options slot) (query.search t options slot) := by
  rw [search_eq_gather, search_eq_gather]
  induction h with
  | nil => exact .refl _
  | cons hchain _ ih =>
    obtain ⟨hplainChain, hplainQuery⟩ := Bool.and_eq_true_iff.mp hplain
    exact (hchain.search_someOf hstop hplainChain slot).append (ih hplainQuery)

/-- A rule set with more conditions finds less. -/
theorem RuleSet.search_someOf (hstop : options.stopAtFirstMatch = false)
    {ruleSet ruleSet' : RuleSet}
    (h : ruleSet.conditions.Sublist ruleSet'.conditions) (slot : Slot ν) :
    SomeOf (ruleSet'.search t options slot) (ruleSet.search t options slot) := by
  have hholds : ∀ n, ruleSet'.holds t n = .ok true → ruleSet.holds t n = .ok true := by
    intro n hholds
    have hall := all_eq_ok_true.mp hholds
    exact all_eq_ok_true.mpr fun condition hcondition => hall condition (h.subset hcondition)
  exact gather_someOf (.refl _) (Tree.search_someOf hstop hholds)

/-- Further rules add their conditions behind those that are there. -/
theorem Rule.conditionsOfAll_append (keys : List String) (rules further : List Rule) :
    Rule.conditionsOfAll keys (rules ++ further) =
      Rule.conditionsOfAll keys rules ++ Rule.conditionsOfAll keys further := by
  induction rules with
  | nil => rfl
  | cons rule rules ih =>
    rw [List.cons_append, conditionsOfAll, ih, conditionsOfAll, List.append_assoc]

/-- **More attributes and more rules only narrow what is found**: where neither search fails and
none stops at the first match, what is found with them are some of the nodes found without them, in
the same order. -/
theorem sublist_of_extends (hstop : options.stopAtFirstMatch = false) (t : Tree ν) (slot : Slot ν)
    (all kept : List ν) :
    (∀ query query' : Query, query.isUnplaced = true → query'.Extends query →
      query.search t options slot = .ok all → query'.search t options slot = .ok kept →
        kept.Sublist all) ∧
    (∀ ruleSet ruleSet' : RuleSet, ruleSet.conditions.Sublist ruleSet'.conditions →
      ruleSet.search t options slot = .ok all → ruleSet'.search t options slot = .ok kept →
        kept.Sublist all) ∧
    (∀ rules further : List Rule, (RuleSet.ofRules rules).search t options slot = .ok all →
      (RuleSet.ofRules (rules ++ further)).search t options slot = .ok kept →
        kept.Sublist all) := by
  refine ⟨?_, ?_, ?_⟩
  · intro query query' hplain hextends hall hkept
    exact hextends.search_someOf hstop hplain slot kept all hkept hall
  · intro ruleSet ruleSet' hconditions hall hkept
    exact RuleSet.search_someOf hstop hconditions slot kept all hkept hall
  · intro rules further hall hkept
    have hconditions : (RuleSet.ofRules rules).conditions.Sublist
        (RuleSet.ofRules (rules ++ further)).conditions := by
      rw [RuleSet.ofRules, RuleSet.ofRules, Rule.conditionsOfAll_append]
      exact List.sublist_append_left _ _
    exact RuleSet.search_someOf hstop hconditions slot kept all hkept hall

namespace Arena

/-- A call, and its arguments that pass several attributes. -/
def argumentsWith (attributes : List Attribute) : Query :=
  [.link { kindTest := some ⟨"call", []⟩ }
    (.last { combinator := some .child, next := some { kindTest := some ⟨"arg", attributes⟩ } })]

/-- The source of a node is `x`. -/
def hasSourceX : Attribute := ⟨⟨[.name "source"]⟩, .equal, .text "x"⟩

/-- The nodes that are arguments. -/
def argumentKindRules : List Rule := [⟨"node_type", .text "arg"⟩]

/-- One argument is left by an attribute behind the combinator, and the other one by a further
rule. -/
theorem sublist_of_extends_groupedCall :
    ({} : Options).stopAtFirstMatch = false ∧ (argumentsWith []).isUnplaced = true ∧
      (argumentsWith [hasSourceX]).Extends (argumentsWith []) ∧
      (argumentsWith []).search groupedCall.tree {} (.node 3) = .ok [0, 1] ∧
      (argumentsWith [hasSourceX]).search groupedCall.tree {} (.node 3) = .ok [0] ∧
      (RuleSet.ofRules argumentKindRules).search groupedCall.tree {} (.node 3) = .ok [0, 1] ∧
      (RuleSet.ofRules (argumentKindRules ++ [⟨"source", .symbol "y"⟩])).search groupedCall.tree {}
        (.node 3) = .ok [1] ∧
      [0].Sublist [0, 1] ∧ [1].Sublist [0, 1] := by
  have hstop : ({} : Options).stopAtFirstMatch = false := rfl
  have hextends : (argumentsWith [hasSourceX]).Extends (argumentsWith []) :=
    .cons (.link (.ofTest (.some (KindTest.extends_append "call" [] [])))
      (.last (.ofNext .none
        (.ofTest (.some (KindTest.extends_append "arg" [] [hasSourceX])))))) .nil
  have hall : (argumentsWith []).search groupedCall.tree {} (.node 3) = .ok [0, 1] := by cbv
  have hkept : (argumentsWith [hasSourceX]).search groupedCall.tree {} (.node 3) = .ok [0] := by cbv
  have hallRules :
      (RuleSet.ofRules argumentKindRules).search groupedCall.tree {} (.node 3) = .ok [0, 1] := by
    cbv
  have hkeptRules : (RuleSet.ofRules (argumentKindRules ++ [⟨"source", .symbol "y"⟩])).search
      groupedCall.tree {} (.node 3) = .ok [1] := by cbv
  have hnarrow := sublist_of_extends hstop groupedCall.tree (.node 3)
  exact ⟨hstop, rfl, hextends, hall, hkept, hallRules, hkeptRules,
    (hnarrow _ _).1 _ _ rfl hextends hall hkept, (hnarrow _ _).2.2 _ _ hallRules hkeptRules⟩

end Arena

end TreeQuery
