import TreeQuery.Proofs.AddedTests

/-!
# The leaves of a rule set

Rules under rules are a tree, and what is not rules itself is a leaf of it. A leaf has an address:
the places of the rules, from the outermost one inwards, in which it stands. Address by address, the
tree is read from left to right and from the top down.

A rule set has one condition for each leaf, in that order, under all the keys on the way to the
leaf. It holds of a node as its conditions do one after the other, so that rules that are added are
asked only where those before them hold.

## Main definitions and results

* `Leaf`, `RuleValue.HasLeaf` — the leaves of an expectation, by address.
* `RuleValue.leaves` — these leaves in order.
* `RuleValue.mem_leaves_iff`, `RuleValue.ascending_leaves`: **each leaf is listed, and in order**.
* `RuleSet.ofRules_leaves`: the conditions of a rule set are its leaves, and it holds as they do.
-/

namespace TreeQuery

/-- An expectation in a tree of rules. -/
structure Leaf where
  /-- The places of the rules on the way to it. -/
  address : List Nat
  /-- Their keys. -/
  keys : List String
  /-- The expectation. -/
  expected : RuleValue

namespace Leaf

/-- The leaf as one of the value of a rule, from where the rule stands. -/
def under (place : Nat) (key : String) (leaf : Leaf) : Leaf :=
  ⟨place :: leaf.address, key :: leaf.keys, leaf.expected⟩

/-- The condition that a leaf is, below given keys. -/
def condition (keys : List String) (leaf : Leaf) : Condition := ⟨keys ++ leaf.keys, leaf.expected⟩

/-- The condition of a leaf under a key is the one that the leaf has below that key. -/
theorem condition_under (keys : List String) (place : Nat) (key : String) (leaf : Leaf) :
    (leaf.under place key).condition keys = leaf.condition (keys ++ [key]) := by
  rw [condition, condition, under, List.append_assoc]
  rfl

end Leaf

/-- The leaves of an expectation. -/
inductive RuleValue.HasLeaf : RuleValue → Leaf → Prop where
  /-- An expectation that is not rules is a leaf itself. -/
  | leaf {value : RuleValue} : (∀ rules, value ≠ .rules rules) → HasLeaf value ⟨[], [], value⟩
  /-- The leaves of the value of a rule. -/
  | under {rules : List Rule} {place : Nat} {key : String} {value : RuleValue} {leaf : Leaf} :
      rules[place]? = some ⟨key, value⟩ → HasLeaf value leaf →
      HasLeaf (.rules rules) (leaf.under place key)

/-! ### Leaves in order -/

mutual

/-- The leaves of an expectation from left to right. -/
def RuleValue.leaves : RuleValue → List Leaf
  | .rules rules => Rule.leavesFrom 0 rules
  | value => [⟨[], [], value⟩]

/-- The leaves of a rule in its place. -/
def Rule.leaves (place : Nat) : Rule → List Leaf
  | ⟨key, value⟩ => value.leaves.map (Leaf.under place key)

/-- The leaves of rules that stand from a place on. -/
def Rule.leavesFrom (place : Nat) : List Rule → List Leaf
  | [] => []
  | rule :: rules => rule.leaves place ++ Rule.leavesFrom (place + 1) rules

end

/-- An expectation that is not rules has itself as its only leaf. -/
theorem RuleValue.leaves_of_ne_rules {value : RuleValue} (h : ∀ rules, value ≠ .rules rules) :
    value.leaves = [⟨[], [], value⟩] := by
  cases value with
  | rules rules => exact absurd rfl (h rules)
  | _ => rfl

/-- A leaf of rules is a leaf of one of them in its place. -/
theorem Rule.mem_leavesFrom {rules : List Rule} {place : Nat} {leaf : Leaf} :
    leaf ∈ Rule.leavesFrom place rules ↔
      ∃ (i : Nat) (rule : Rule), rules[i]? = some rule ∧ leaf ∈ rule.leaves (place + i) := by
  induction rules generalizing place with
  | nil => simp [leavesFrom]
  | cons first others ih =>
    rw [leavesFrom, List.mem_append, ih]
    constructor
    · rintro (hfirst | ⟨i, rule, hrule, hleaf⟩)
      · exact ⟨0, first, rfl, hfirst⟩
      · exact ⟨i + 1, rule, hrule, by rwa [Nat.add_right_comm] at hleaf⟩
    · rintro ⟨i, rule, hrule, hleaf⟩
      cases i with
      | zero =>
        obtain rfl := Option.some.inj hrule
        exact .inl hleaf
      | succ i => exact .inr ⟨i, rule, hrule, by rwa [Nat.add_right_comm]⟩

/-- What is listed for a rule are the leaves of its value. -/
theorem Rule.mem_leaves {rule : Rule} {place : Nat} {leaf : Leaf} :
    leaf ∈ rule.leaves place ↔ ∃ inner ∈ rule.value.leaves, inner.under place rule.key = leaf := by
  obtain ⟨key, value⟩ := rule
  exact List.mem_map

/-- Every leaf of an expectation is listed. -/
theorem RuleValue.mem_leaves_of_hasLeaf {value : RuleValue} {leaf : Leaf} (h : value.HasLeaf leaf) :
    leaf ∈ value.leaves := by
  induction h with
  | leaf hleaf =>
    rw [leaves_of_ne_rules hleaf]
    exact List.mem_singleton_self _
  | @under rules place key value leaf hrule _ ih =>
    refine Rule.mem_leavesFrom.mpr ⟨place, _, hrule, Rule.mem_leaves.mpr ⟨leaf, ih, ?_⟩⟩
    rw [Nat.zero_add]

/-- What holds of every expectation that is not rules, and of rules when it holds of what they
expect, holds of all expectations. -/
theorem RuleValue.inRules {motive : RuleValue → Prop}
    (leaf : ∀ value, (∀ rules, value ≠ .rules rules) → motive value)
    (rules : ∀ rules : List Rule, (∀ rule ∈ rules, motive rule.value) → motive (.rules rules))
    (value : RuleValue) : motive value :=
  @RuleValue.rec motive (fun rule => motive rule.value) (fun _ => True)
    (fun rules => ∀ rule ∈ rules, motive rule.value)
    (leaf _ (by simp)) (fun _ => leaf _ (by simp)) (fun _ => leaf _ (by simp))
    (fun _ => leaf _ (by simp)) (fun _ => leaf _ (by simp)) (fun _ => leaf _ (by simp))
    (fun _ => leaf _ (by simp)) (fun _ _ => leaf _ (by simp)) rules (leaf _ (by simp))
    (fun _ _ hvalue => hvalue) trivial (fun _ _ _ _ => trivial)
    (List.forall_mem_nil _) (fun _ _ hrule hrules => List.forall_mem_cons.mpr ⟨hrule, hrules⟩) value

/-- **What is listed are the leaves.** -/
theorem RuleValue.mem_leaves_iff {value : RuleValue} {leaf : Leaf} :
    leaf ∈ value.leaves ↔ value.HasLeaf leaf := by
  refine ⟨fun hmem => ?_, mem_leaves_of_hasLeaf⟩
  induction value using RuleValue.inRules generalizing leaf with
  | leaf value hvalue =>
    rw [leaves_of_ne_rules hvalue] at hmem
    obtain rfl := List.mem_singleton.mp hmem
    exact .leaf hvalue
  | rules rules ih =>
    obtain ⟨i, ⟨key, value⟩, hrule, hleaf⟩ := Rule.mem_leavesFrom.mp hmem
    obtain ⟨inner, hinner, rfl⟩ := Rule.mem_leaves.mp hleaf
    rw [Nat.zero_add]
    exact .under hrule (ih _ (List.mem_of_getElem? hrule) hinner)

/-- Leaves are in order if those of each rule are. -/
theorem Rule.ascending_leavesFrom {rules : List Rule}
    (h : ∀ rule ∈ rules, rule.value.leaves.Pairwise (·.address < ·.address)) (place : Nat) :
    (Rule.leavesFrom place rules).Pairwise (·.address < ·.address) := by
  induction rules generalizing place with
  | nil => exact .nil
  | cons first others ih =>
    obtain ⟨hfirst, hothers⟩ := List.forall_mem_cons.mp h
    refine List.pairwise_append.mpr ⟨?_, ih hothers (place + 1), ?_⟩
    · obtain ⟨key, value⟩ := first
      refine List.pairwise_map.mpr (hfirst.imp fun hlt => ?_)
      exact List.cons_lt_cons_iff.mpr (.inr ⟨rfl, hlt⟩)
    · intro leaf hleaf later hlater
      obtain ⟨inner, -, rfl⟩ := Rule.mem_leaves.mp hleaf
      obtain ⟨i, rule, -, hrule⟩ := Rule.mem_leavesFrom.mp hlater
      obtain ⟨inner', -, rfl⟩ := Rule.mem_leaves.mp hrule
      exact List.cons_lt_cons_iff.mpr (.inl (by omega))

/-- **The leaves are listed from left to right and from the top down, each once.** -/
theorem RuleValue.ascending_leaves (value : RuleValue) :
    value.leaves.Pairwise (·.address < ·.address) := by
  induction value using RuleValue.inRules with
  | leaf value hvalue =>
    rw [leaves_of_ne_rules hvalue]
    exact List.pairwise_singleton _ _
  | rules rules ih => exact Rule.ascending_leavesFrom ih 0

/-! ### Conditions -/

/-- The conditions of rules are those of their leaves if this holds of each rule. -/
theorem Rule.conditionsOfAll_eq {rules : List Rule}
    (h : ∀ rule ∈ rules, ∀ keys, rule.value.conditions keys =
      rule.value.leaves.map (Leaf.condition keys)) (keys : List String) (place : Nat) :
    Rule.conditionsOfAll keys rules = (Rule.leavesFrom place rules).map (Leaf.condition keys) := by
  induction rules generalizing place with
  | nil => rfl
  | cons first others ih =>
    obtain ⟨hfirst, hothers⟩ := List.forall_mem_cons.mp h
    have hrule : first.conditions keys = (first.leaves place).map (Leaf.condition keys) := by
      obtain ⟨key, value⟩ := first
      rw [Rule.conditions, hfirst, Rule.leaves, List.map_map]
      exact List.map_congr_left fun leaf _ => (leaf.condition_under keys place key).symm
    rw [Rule.conditionsOfAll, Rule.leavesFrom, List.map_append, hrule, ih hothers]

/-- **The conditions of an expectation are its leaves**, under the given keys. -/
theorem RuleValue.conditions_eq (value : RuleValue) (keys : List String) :
    value.conditions keys = value.leaves.map (Leaf.condition keys) := by
  induction value using RuleValue.inRules generalizing keys with
  | leaf value hvalue =>
    have hkeys : keys ++ [] = keys := List.append_nil keys
    rw [leaves_of_ne_rules hvalue, List.map_singleton, Leaf.condition, hkeys]
    cases value with
    | rules rules => exact absurd rfl (hvalue rules)
    | _ => rfl
  | rules rules ih => exact Rule.conditionsOfAll_eq (fun rule hmem keys => ih rule hmem keys) keys 0

/-- A leaf of rules has a key. -/
theorem RuleValue.HasLeaf.exists_keys {rules : List Rule} {leaf : Leaf}
    (h : (RuleValue.rules rules).HasLeaf leaf) :
    ∃ outer innermost, leaf.keys = outer ++ [innermost] := by
  cases h with
  | leaf hleaf => exact absurd rfl (hleaf rules)
  | under => exact ⟨_, _, (List.dropLast_concat_getLast (List.cons_ne_nil _ _)).symm⟩

/-- The keyword of a condition is named by its innermost key alone, and its path is spelled by the
other ones if there is a keyword. -/
theorem Condition.keyword?_path_of_keys {condition : Condition} {outer : List String}
    {innermost : String} (h : condition.keys = outer ++ [innermost]) :
    condition.keyword? = Keyword.ofKey? innermost ∧
      condition.path = KeyPath.ofChars (".".intercalate
        (if (Keyword.ofKey? innermost).isSome then outer else outer ++ [innermost])).toList := by
  have hkeyword : condition.keyword? = Keyword.ofKey? innermost := by
    rw [keyword?, h, List.getLast?_concat, Option.bind_some]
  refine ⟨hkeyword, ?_⟩
  rw [path, hkeyword, h, List.dropLast_concat]

/-! ### Conditions one after the other -/

variable {ν : Type}

/-- Added rules are asked where those before them hold, and not otherwise. -/
theorem RuleSet.holds_append (t : Tree ν) (rules further : List Rule) (n : ν) :
    ((ofRules rules).holds t n = .ok true →
        (ofRules (rules ++ further)).holds t n = (ofRules further).holds t n) ∧
      ((ofRules rules).holds t n ≠ .ok true →
        (ofRules (rules ++ further)).holds t n = (ofRules rules).holds t n) := by
  have hconditions : (ofRules (rules ++ further)).conditions =
      (ofRules rules).conditions ++ (ofRules further).conditions :=
    Rule.conditionsOfAll_append [] rules further
  unfold holds
  rw [hconditions]
  exact Fallible.all_append _ _ _

/-- **A rule set has one condition for each leaf of its rules**, from left to right and from the top
down: under all the keys on the way to the leaf, the comparison being named by the innermost key
alone. **It holds of a node as its conditions do one after the other**: the first one that does not
hold, or fails, settles the answer, and rules that are added are asked where those before them
hold. -/
theorem RuleSet.ofRules_leaves (rules : List Rule) :
    (∃ leaves : List Leaf,
      leaves.Pairwise (·.address < ·.address) ∧
      (∀ leaf, leaf ∈ leaves ↔ (RuleValue.rules rules).HasLeaf leaf) ∧
      (ofRules rules).entries =
        leaves.map (fun leaf => (".".intercalate leaf.keys, leaf.expected)) ∧
      (ofRules rules).conditions = leaves.map (fun leaf => ⟨leaf.keys, leaf.expected⟩) ∧
      ∀ condition ∈ (ofRules rules).conditions, ∃ outer innermost,
        condition.keys = outer ++ [innermost] ∧
        condition.keyword? = Keyword.ofKey? innermost ∧
        condition.path = KeyPath.ofChars (".".intercalate
          (if (Keyword.ofKey? innermost).isSome then outer else outer ++ [innermost])).toList) ∧
    ∀ {ν : Type} (t : Tree ν) (n : ν),
      ((∀ condition ∈ (ofRules rules).conditions, condition.holds t n = .ok true) ∧
          (ofRules rules).holds t n = .ok true ∨
        ∃ before condition after, (ofRules rules).conditions = before ++ condition :: after ∧
          (∀ earlier ∈ before, earlier.holds t n = .ok true) ∧ condition.holds t n ≠ .ok true ∧
          (ofRules rules).holds t n = condition.holds t n) ∧
      ∀ further,
        ((ofRules rules).holds t n = .ok true →
          (ofRules (rules ++ further)).holds t n = (ofRules further).holds t n) ∧
        ((ofRules rules).holds t n ≠ .ok true →
          (ofRules (rules ++ further)).holds t n = (ofRules rules).holds t n) := by
  have hconditions : (ofRules rules).conditions =
      (RuleValue.rules rules).leaves.map (fun leaf => ⟨leaf.keys, leaf.expected⟩) :=
    (RuleValue.rules rules).conditions_eq []
  refine ⟨⟨(RuleValue.rules rules).leaves, RuleValue.ascending_leaves _,
    fun _ => RuleValue.mem_leaves_iff, ?_, hconditions, ?_⟩, fun t n => ⟨?_, ?_⟩⟩
  · rw [entries, hconditions, List.map_map]
    rfl
  · intro condition hcondition
    rw [hconditions] at hcondition
    obtain ⟨leaf, hleaf, rfl⟩ := List.mem_map.mp hcondition
    obtain ⟨outer, innermost, hkeys⟩ := (RuleValue.mem_leaves_iff.mp hleaf).exists_keys
    exact ⟨outer, innermost, hkeys, Condition.keyword?_path_of_keys hkeys⟩
  · exact Fallible.all_eq_first (fun condition => condition.holds t n) (ofRules rules).conditions
  · exact fun further => holds_append t rules further n

/-- A key with rules under it, one of which is a keyword, beside a key with none and one without
rules. -/
example : (RuleSet.ofRules [⟨"args", .rules [⟨"0", .nil⟩, ⟨"size", .rules [⟨"gte", .integer 2⟩]⟩]⟩,
    ⟨"empty", .rules []⟩, ⟨"", .any⟩]).entries =
    [("args.0", .nil), ("args.size.gte", .integer 2), ("", .any)] := by
  rfl

end TreeQuery
