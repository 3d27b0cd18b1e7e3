import TreeQuery.Arena
import TreeQuery.Proofs.Query.Opposites
import TreeQuery.Proofs.Rule.Kinds

/-!
# Symbols in both notations

Both notations ask whether a slot is the symbol of a name, and both take a node whose source is the
name or the name behind a colon, a symbol, or a text for it. A query asks this of what the slot
stands for, a rule set of **the slot as it stands**, though it reduces slots before it compares them
with numbers, truth values and nil. A symbol in parentheses is found by the query alone.

So the two notations find the same nodes exactly where no slot is told apart by its reduction, and
they always do where the slots are no literals.

## Main definitions and results

* `Tree.TakesAlike` — a slot is the symbol of a name before and after its reduction, or at neither
  time.
* `SymbolTest` — a test for a symbol, with `SymbolTest.toAttribute` and `SymbolTest.toRule` as the
  two ways to write it.
* `SymbolTest.found_alike_iff`: **when both notations find the same nodes**.
-/

namespace TreeQuery

variable {ν : Type}

/-! ### Slots -/

/-- A query takes a slot for a symbol by what it stands for. -/
theorem Value.isSymbol_eq (t : Tree ν) (name : String) (slot : Slot ν) :
    isSymbol t name slot = t.agreesWithSymbol name (t.reduce slot) := by
  unfold isSymbol Tree.agreesWithSymbol
  cases t.reduce slot <;> rfl

namespace Tree

/-- A slot is the symbol of a name before and after its reduction, or at neither time. -/
def TakesAlike (t : Tree ν) (name : String) (slot : Slot ν) : Prop :=
  t.agreesWithSymbol name (t.reduce slot) = t.agreesWithSymbol name slot

/-- A node without a literal stands for itself. -/
theorem reduce_node_of_literal_eq_none {t : Tree ν} {m : ν} (h : t.literal m = none) :
    t.reduce (.node m) = .node m := by
  simp [reduce, reductionDepth, reduceWithin, h]

/-- **Only a literal can be taken for another symbol than it stands for.** -/
theorem takesAlike_of_literal_eq_none {t : Tree ν} {slot : Slot ν}
    (h : ∀ m, slot = .node m → t.literal m = none) (name : String) : t.TakesAlike name slot := by
  unfold TakesAlike
  cases slot with
  | node m => rw [reduce_node_of_literal_eq_none (h m rfl)]
  | _ => rfl

end Tree

/-! ### Tests -/

/-- A test whether the slot that a key leads to is the symbol of a name, or whether it is not. -/
structure SymbolTest where
  /-- The key. -/
  key : String
  /-- The name. -/
  name : String
  /-- Whether the slot has to differ from the symbol. -/
  negated : Bool := false
  /-- The key is no word that names a comparison. -/
  key_ne : Keyword.ofKey? key = none

namespace SymbolTest

/-- The path that the key spells. -/
def path (test : SymbolTest) : KeyPath := KeyPath.ofChars test.key.toList

/-- The test in a query. -/
def toAttribute (test : SymbolTest) : Attribute :=
  ⟨test.path, if test.negated then .notEqual else .equal, .symbol test.name⟩

/-- The test in a rule set. -/
def toRule (test : SymbolTest) : Rule :=
  if test.negated then ⟨test.key, .rules [⟨"not", .symbol test.name⟩]⟩
  else ⟨test.key, .symbol test.name⟩

/-- What the test means, with what is looked at in the slot left open. -/
def passes (t : Tree ν) (test : SymbolTest) (seen : Slot ν → Slot ν) (n : ν) : Bool :=
  t.agreesWithSymbol test.name (seen (t.resolve n test.path)) != test.negated

/-- A query asks for the meaning of the test in **reduced** slots, and does not fail. -/
theorem holds_toAttribute (t : Tree ν) (test : SymbolTest) (base n : ν) :
    test.toAttribute.holds t base n = .ok (test.passes t t.reduce n) := by
  obtain ⟨key, name, negated, hkey⟩ := test
  have hequal : ∀ slot, (Value.symbol name).isEqual t base slot =
      .ok (t.agreesWithSymbol name (t.reduce slot)) := by
    intro slot
    rw [← Value.isSymbol_eq]
    rfl
  rw [Attribute.holds_eq]
  cases negated with
  | false =>
    refine (Value.holds_equal _ _).trans ((hequal _).trans ?_)
    simp [passes, toAttribute]
  | true =>
    refine (Value.holds_notEqual _ _).trans ((Value.differs_eq_ok (hequal _)).trans ?_)
    simp [passes, toAttribute]

/-- The condition that a rule set makes of the test. -/
def condition (test : SymbolTest) : Condition :=
  ⟨if test.negated then [test.key, "not"] else [test.key], .symbol test.name⟩

/-- The rule of a test has one condition. -/
theorem conditions_toRule (test : SymbolTest) : test.toRule.conditions [] = [test.condition] := by
  obtain ⟨key, name, negated, hkey⟩ := test
  cases negated <;>
    simp [toRule, condition, Rule.conditions, RuleValue.conditions, Rule.conditionsOfAll]

/-- The keyword of the condition is the negation, if there is one. -/
theorem keyword?_condition (test : SymbolTest) :
    test.condition.keyword? = if test.negated then some .not else none := by
  obtain ⟨key, name, negated, hkey⟩ := test
  cases negated with
  | false => simpa [condition, Condition.keyword?] using hkey
  | true => rfl

/-- The path of the condition is that of the attribute. -/
theorem path_condition (test : SymbolTest) : test.condition.path = test.path := by
  unfold Condition.path
  rw [keyword?_condition]
  obtain ⟨key, name, negated, hkey⟩ := test
  cases negated <;> rfl

/-- A rule set asks for the meaning of the test in slots **as they stand**, and does not fail. -/
theorem holds_condition (t : Tree ν) (test : SymbolTest) (n : ν) :
    test.condition.holds t n = .ok (test.passes t id n) := by
  rw [Condition.holds_eq_ok_iff, keyword?_condition, path_condition]
  unfold passes
  cases test.negated with
  | false => simp [condition, RuleValue.expand, RuleValue.compare, RuleValue.agrees]
  | true =>
    have hagrees : (RuleValue.symbol test.name).agrees t (t.resolve n test.path) =
        .ok (t.agreesWithSymbol test.name (t.resolve n test.path)) := rfl
    simp only [condition, RuleValue.expand, RuleValue.compare, if_true, hagrees]
    simp [bind, Except.bind, pure, Except.pure]

/-! ### Both searches -/

/-- The selector of a kind and a test. -/
def selector (kind : String) (test : SymbolTest) : Selector :=
  { kindTest := some ⟨kind, [test.toAttribute]⟩ }

/-- The rule set of a kind and a test. -/
def ruleSet (kind : String) (test : SymbolTest) : RuleSet :=
  .ofRules [⟨"node_type", .text kind⟩, test.toRule]

/-- The nodes of a kind whose slots pass, of those that a search looks at. -/
def found (t : Tree ν) (options : Options) (kind : String) (test : SymbolTest)
    (seen : Slot ν → Slot ν) (root : ν) : List ν :=
  t.matching options (fun n => t.kind n == kind && test.passes t seen n) root

/-- A query finds the nodes whose **reduced** slots pass. -/
theorem search_selector (t : Tree ν) (options : Options) (kind : String) (test : SymbolTest)
    (root : ν) :
    (selector kind test).search t options (.node root) =
      .ok (test.found t options kind t.reduce root) := by
  have hattributes : ∀ n, Attribute.allHold t n [test.toAttribute] n =
      .ok (test.passes t t.reduce n) := by
    intro n
    rw [Attribute.allHold_eq_all, Fallible.all_singleton, holds_toAttribute]
  refine (Selector.search_kind hattributes options (.node root)).trans ?_
  simp [found, Slot.nodes]

/-- A rule set finds the nodes whose slots pass **as they are**. -/
theorem search_ruleSet {kind : String} (hkind : isKindName kind = true) (t : Tree ν)
    (options : Options) (test : SymbolTest) (root : ν) :
    (ruleSet kind test).search t options (.node root) =
      .ok (test.found t options kind id root) := by
  have hrules : ∀ n, Fallible.all (fun condition => condition.holds t n)
      (Rule.conditionsOfAll [] [test.toRule]) = .ok (test.passes t id n) := by
    intro n
    have hconditions : Rule.conditionsOfAll [] [test.toRule] = [test.condition] := by
      simp [Rule.conditionsOfAll, conditions_toRule]
    rw [hconditions, Fallible.all_singleton, holds_condition]
  refine (RuleSet.search_kind hkind hrules options (.node root)).trans ?_
  simp [found, Slot.nodes]

/-- Where slots are taken alike, the test passes in both notations or in neither. -/
theorem passes_reduce_eq_iff (t : Tree ν) (test : SymbolTest) (n : ν) :
    test.passes t t.reduce n = test.passes t id n ↔
      t.TakesAlike test.name (t.resolve n test.path) := by
  unfold passes Tree.TakesAlike
  cases test.negated <;> simp

/-- A search that looks at the root alone finds it or not. -/
theorem found_root (t : Tree ν) {kind : String} (test : SymbolTest) (seen : Slot ν → Slot ν)
    {root : ν} (hroot : t.kind root = kind) :
    test.found t { recursive := false } kind seen root =
      if test.passes t seen root then [root] else [] := by
  simp [found, Tree.matching, Tree.candidates, hroot, List.filter_cons]

/-- **Both notations find the same nodes of a kind, from every root and with all options, exactly
when at every node of that kind the slot that the key leads to is taken alike** before and after its
reduction. Neither of them ever fails. A slot that is no literal is always taken alike. -/
theorem found_alike_iff {kind : String} (hkind : isKindName kind = true) (test : SymbolTest)
    (t : Tree ν) :
    (∀ options root, ∃ inQuery inRules,
      (selector kind test).search t options (.node root) = .ok inQuery ∧
        (ruleSet kind test).search t options (.node root) = .ok inRules) ∧
    ((∀ options root, (selector kind test).search t options (.node root) =
        (ruleSet kind test).search t options (.node root)) ↔
      ∀ n, t.kind n = kind → t.TakesAlike test.name (t.resolve n test.path)) ∧
    (∀ slot, (∀ m, slot = .node m → t.literal m = none) → t.TakesAlike test.name slot) := by
  refine ⟨fun options root => ?_, ⟨fun hsame n hn => ?_, fun halike options root => ?_⟩,
    fun slot hslot => Tree.takesAlike_of_literal_eq_none hslot test.name⟩
  · exact ⟨_, _, search_selector t options kind test root, search_ruleSet hkind t options test root⟩
  · -- a search that looks at the one node tells whether it passes
    have hroot := hsame { recursive := false } n
    rw [search_selector, search_ruleSet hkind, Except.ok.injEq, found_root t test _ hn,
      found_root t test _ hn] at hroot
    rw [← passes_reduce_eq_iff]
    cases hquery : test.passes t t.reduce n <;> cases hrules : test.passes t id n <;>
      simp_all
  · rw [search_selector, search_ruleSet hkind, found, found]
    have hpasses : (fun n => t.kind n == kind && test.passes t t.reduce n) =
        fun n => t.kind n == kind && test.passes t id n := by
      funext n
      by_cases hn : t.kind n = kind
      · rw [(passes_reduce_eq_iff t test n).mpr (halike n hn)]
      · rw [beq_false_of_ne hn, Bool.false_and, Bool.false_and]
    rw [hpasses]

end SymbolTest

/-- A call with a symbol as its name and the same symbol in parentheses as its argument. -/
def symbolCall : Arena where
  nodes := #[
    { kind := "sym", source := ":foo", literal := some (.symbol "foo") },
    { kind := "begin", source := "(:foo)", literal := some (.node 0),
      entries := [⟨none, .node 0⟩] },
    { kind := "call", source := "foo((:foo))",
      entries := [⟨some "name", .symbol "foo"⟩, ⟨some "argument", .node 1⟩] }]
  held_lt := by decide

/-- The name is the symbol `foo`. -/
def nameTest : SymbolTest where
  key := "name"
  name := "foo"
  key_ne := rfl

/-- The argument is the symbol `foo`. -/
def argumentTest : SymbolTest where
  key := "argument"
  name := "foo"
  key_ne := rfl

/-- By its name both notations find the call. -/
theorem SymbolTest.found_alike_iff_symbolCall :
    isKindName "call" = true ∧
      (∀ n, symbolCall.tree.kind n = "call" →
        symbolCall.tree.TakesAlike nameTest.name (symbolCall.tree.resolve n nameTest.path)) ∧
      (selector "call" nameTest).search symbolCall.tree { recursive := false } (.node 2) =
        .ok [2] ∧
      (ruleSet "call" nameTest).search symbolCall.tree { recursive := false } (.node 2) =
        .ok [2] := by
  have hkind : isKindName "call" = true := by decide
  obtain ⟨-, hiff, halike⟩ := found_alike_iff hkind nameTest symbolCall.tree
  have hname : ∀ n, symbolCall.tree.kind n = "call" →
      symbolCall.tree.TakesAlike nameTest.name (symbolCall.tree.resolve n nameTest.path) := by
    intro n hn
    match n, hn with
    | 0, hn => simp [symbolCall, Arena.tree, Arena.node] at hn
    | 1, hn => simp [symbolCall, Arena.tree, Arena.node] at hn
    | 2, _ => exact halike (.symbol "foo") (by simp)
    | n + 3, hn => simp [symbolCall, Arena.tree, Arena.node] at hn
  have hselector : (selector "call" nameTest).search symbolCall.tree { recursive := false }
      (.node 2) = .ok [2] := rfl
  exact ⟨hkind, hname, hselector,
    (hiff.mpr hname { recursive := false } 2).symm.trans hselector⟩

/-- **The notations do not agree on symbols.** A query finds the call by its argument, the symbol in
parentheses, and a rule set does not. -/
theorem SymbolTest.not_forall_found_alike :
    ¬ ∀ (a : Arena) (kind : String) (test : SymbolTest) (options : Options) (root : Nat),
      isKindName kind = true → test.name ≠ "" →
        ∃ found, (selector kind test).search a.tree options (.node root) = .ok found ∧
          (ruleSet kind test).search a.tree options (.node root) = .ok found := by
  intro h
  have hkind : isKindName "call" = true := by decide
  obtain ⟨found, hselector, hruleSet⟩ :=
    h symbolCall "call" argumentTest { recursive := false } 2 hkind (by decide)
  have hquery : (selector "call" argumentTest).search symbolCall.tree { recursive := false }
      (.node 2) = .ok [2] := rfl
  have hrules : (ruleSet "call" argumentTest).search symbolCall.tree { recursive := false }
      (.node 2) = .ok [] := (search_ruleSet hkind _ _ _ 2).trans rfl
  obtain rfl := Except.ok.inj (hselector.symm.trans hquery)
  cases hruleSet.symm.trans hrules

end TreeQuery
