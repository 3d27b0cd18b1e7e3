import TreeQuery.Proofs.Query.Legality
import TreeQuery.Rule.Search

/-!
# Legal rule sets

A rule set makes sense when every keyword stands before an expectation that it can be applied to, a
membership before an array and an order before a number, and no array holds further rules. Rules
outside arrays are no expectations, since they are taken apart into their conditions. **A legal rule
set never fails, as a legal query does not.**

## Main definitions and results

* `RuleSet.isLegal` — the condition, on the conditions of the rule set.
* `expected_ne_rules`: no condition of a rule set expects rules.
* `succeeds_of_isLegal`: **legal queries and legal rule sets never fail**.
-/

namespace TreeQuery

open Fallible

variable {ν : Type} {t : Tree ν}

/-! ### Legality -/

mutual

/-- Whether an expectation holds no rules, itself or in its arrays. -/
def RuleValue.isPlain : RuleValue → Bool
  | .rules _ => false
  | .array items => RuleValue.arePlain items
  | _ => true
termination_by structural value => value

/-- Whether several expectations hold no rules. -/
def RuleValue.arePlain : List RuleValue → Bool
  | [] => true
  | value :: rest => value.isPlain && RuleValue.arePlain rest
termination_by structural values => values

end

/-- Whether a keyword can be applied to an expectation. -/
def Keyword.admits (expected : RuleValue) : Keyword → Bool
  | memberOf | notMemberOf =>
    match expected with
    | .array _ => true
    | _ => false
  | greater | greaterOrEqual | less | lessOrEqual => expected.number?.isSome
  | not | includes | notIncludes => true

/-- Whether a condition can be applied: its keyword admits what it expects, and no array in that
holds rules. -/
def Condition.isLegal (condition : Condition) : Bool :=
  condition.keyword?.all (Keyword.admits condition.expected) &&
    match condition.expected with
    | .array items => RuleValue.arePlain items
    | _ => true

/-- Whether every condition of a rule set can be applied. -/
def RuleSet.isLegal (ruleSet : RuleSet) : Bool := ruleSet.conditions.all Condition.isLegal

/-- Expectations hold no rules if none of them does. -/
theorem RuleValue.arePlain_iff {values : List RuleValue} :
    RuleValue.arePlain values = true ↔ ∀ value ∈ values, value.isPlain = true := by
  induction values with
  | nil => simp [arePlain]
  | cons value values ih => rw [arePlain, Bool.and_eq_true, ih, List.forall_mem_cons]

/-! ### Conditions expect no rules -/

mutual

/-- **No condition expects rules**: those have become conditions of their own. -/
theorem RuleValue.expected_ne_rules : ∀ (value : RuleValue) (keys : List String),
    ∀ condition ∈ value.conditions keys, ∀ rules, condition.expected ≠ .rules rules
  | .rules rules, keys => Rule.expected_ne_rules_of_mem_conditionsOfAll rules keys
  | .nil, _ | .boolean _, _ | .integer _, _ | .float _, _ | .text _, _ | .symbol _, _
  | .pattern _, _ | .array _, _ | .any, _ => by simp [RuleValue.conditions]
termination_by structural value => value

/-- No condition of a rule expects rules. -/
theorem Rule.expected_ne_rules : ∀ (rule : Rule) (keys : List String),
    ∀ condition ∈ rule.conditions keys, ∀ rules, condition.expected ≠ .rules rules
  | ⟨key, value⟩, keys => value.expected_ne_rules (keys ++ [key])
termination_by structural rule => rule

/-- No condition of several rules expects rules. -/
theorem Rule.expected_ne_rules_of_mem_conditionsOfAll : ∀ (row : List Rule) (keys : List String),
    ∀ condition ∈ Rule.conditionsOfAll keys row, ∀ rules, condition.expected ≠ .rules rules
  | [], _ => by simp [Rule.conditionsOfAll]
  | rule :: row, keys => by
    intro condition hcondition
    rcases List.mem_append.mp hcondition with hfirst | hothers
    · exact rule.expected_ne_rules keys condition hfirst
    · exact Rule.expected_ne_rules_of_mem_conditionsOfAll row keys condition hothers
termination_by structural row => row

end

/-- **No condition of a rule set expects rules.** -/
theorem RuleSet.expected_ne_rules {rules : List Rule} {condition : Condition}
    (h : condition ∈ (RuleSet.ofRules rules).conditions) (others : List Rule) :
    condition.expected ≠ .rules others :=
  Rule.expected_ne_rules_of_mem_conditionsOfAll rules [] condition h others

/-! ### Agreement -/

mutual

/-- A slot is compared with an expectation that holds no rules without failing. -/
theorem RuleValue.agrees_succeeds : ∀ (value : RuleValue), value.isPlain = true →
    ∀ slot : Slot ν, Succeeds (value.agrees t slot)
  | .rules _, h, _ => by cases h
  | .array values, h, slot => by
    rw [RuleValue.agrees]
    split
    · split
      · exact RuleValue.agreeAll_succeeds values h _
      · exact succeeds_ok _
    · exact succeeds_ok _
  | .nil, _, _ | .boolean _, _, _ | .integer _, _, _ | .float _, _, _ | .text _, _, _
  | .symbol _, _, _ | .pattern _, _, _ | .any, _, _ => succeeds_ok _
termination_by structural value => value

/-- Expectations that hold no rules are compared with slots one by one without failing. -/
theorem RuleValue.agreeAll_succeeds :
    ∀ (values : List RuleValue), RuleValue.arePlain values = true →
    ∀ items : List (Slot ν), Succeeds (RuleValue.agreeAll t values items)
  | [], _, _ => succeeds_ok _
  | _ :: _, _, [] => succeeds_ok _
  | value :: values, h, item :: items => by
    obtain ⟨hvalue, hvalues⟩ := Bool.and_eq_true_iff.mp h
    rw [RuleValue.agreeAll]
    refine (RuleValue.agrees_succeeds value hvalue item).bind fun agrees => ?_
    split
    · exact RuleValue.agreeAll_succeeds values hvalues items
    · exact succeeds_ok _
termination_by structural values => values

end

/-- Whether a slot agrees with one of several expectations is asked without failing, if they hold
no rules. -/
theorem RuleValue.anyAgrees_succeeds {values : List RuleValue}
    (h : RuleValue.arePlain values = true) (slot : Slot ν) :
    Succeeds (Fallible.any (fun value => value.agrees t slot) values) :=
  any_succeeds fun value hvalue =>
    RuleValue.agrees_succeeds value (RuleValue.arePlain_iff.mp h value hvalue) slot

/-- **No keyword fails that admits the expectation**, if that holds no rules. -/
theorem RuleValue.compare_succeeds {expected : RuleValue} {keyword : Option Keyword}
    (hadmits : keyword.all (Keyword.admits expected) = true) (hplain : expected.isPlain = true)
    (slot : Slot ν) : Succeeds (expected.compare t keyword slot) := by
  have hagrees := RuleValue.agrees_succeeds (t := t) expected hplain
  have hsome (items : List (Slot ν)) :
      Succeeds (Fallible.any (fun item => expected.agrees t item) items) :=
    any_succeeds fun item _ => hagrees item
  unfold RuleValue.compare
  cases keyword with
  | none => exact hagrees slot
  | some keyword =>
    have hadmits : Keyword.admits expected keyword = true := hadmits
    cases keyword with
    | not => exact (hagrees slot).bind fun _ => succeeds_ok _
    | memberOf =>
      cases expected with
      | array values => exact RuleValue.anyAgrees_succeeds hplain slot
      | _ => cases hadmits
    | notMemberOf =>
      cases expected with
      | array values => exact (RuleValue.anyAgrees_succeeds hplain slot).bind fun _ => succeeds_ok _
      | _ => cases hadmits
    | greater | greaterOrEqual | less | lessOrEqual =>
      obtain ⟨number, hnumber⟩ := Option.isSome_iff_exists.mp hadmits
      simp only [hnumber]
      exact succeeds_ok _
    | includes =>
      dsimp only
      split
      · exact hsome _
      · exact succeeds_ok _
    | notIncludes =>
      dsimp only
      split
      · exact (hsome _).bind fun _ => succeeds_ok _
      · exact succeeds_ok _

/-! ### Rule sets -/

/-- Filling in a template changes neither whether a keyword applies nor whether there are rules. -/
theorem RuleValue.expand_admits (t : Tree ν) (n : ν) (expected : RuleValue) (keyword : Keyword) :
    Keyword.admits (expected.expand t n) keyword = Keyword.admits expected keyword := by
  cases expected <;> cases keyword <;> rfl

/-- Filling in a template brings in no rules. -/
theorem RuleValue.isPlain_expand (t : Tree ν) (n : ν) (expected : RuleValue) :
    (expected.expand t n).isPlain = expected.isPlain := by
  cases expected <;> rfl

/-- **A condition that can be applied does not fail.** -/
theorem Condition.holds_succeeds {condition : Condition} (h : condition.isLegal = true)
    (hrules : ∀ rules, condition.expected ≠ .rules rules) (n : ν) :
    Succeeds (condition.holds t n) := by
  obtain ⟨hadmits, harrays⟩ := Bool.and_eq_true_iff.mp h
  have hplain : condition.expected.isPlain = true := by
    cases hexpected : condition.expected with
    | rules rules => exact absurd hexpected (hrules rules)
    | array items =>
      rw [hexpected] at harrays
      exact harrays
    | _ => rfl
  have hadmits' :
      condition.keyword?.all (Keyword.admits (condition.expected.expand t n)) = true := by
    rwa [funext (RuleValue.expand_admits t n condition.expected)]
  obtain ⟨holds, hholds⟩ := RuleValue.compare_succeeds (t := t) hadmits'
    ((RuleValue.isPlain_expand t n _).trans hplain) (t.resolve n condition.path)
  exact ⟨holds, Condition.holds_eq_ok_iff.mpr hholds⟩

/-- A legal rule set holds of a node or not. -/
theorem RuleSet.holds_succeeds {rules : List Rule} (h : (RuleSet.ofRules rules).isLegal = true)
    (n : ν) : Succeeds ((RuleSet.ofRules rules).holds t n) :=
  all_succeeds fun condition hcondition =>
    Condition.holds_succeeds (List.all_eq_true.mp h condition hcondition)
      (RuleSet.expected_ne_rules hcondition) n

/-- **Legal queries and legal rule sets never fail**, whatever the tree holds, wherever they start
and whatever the options are. -/
theorem succeeds_of_isLegal (t : Tree ν) (options : Options) (slot : Slot ν) (n : ν) :
    (∀ query : Query, query.isLegal = true →
      (∃ found, query.search t options slot = .ok found) ∧
        ∃ occurs, query.occursAt t n = .ok occurs) ∧
    (∀ rules : List Rule, (RuleSet.ofRules rules).isLegal = true →
      (∃ found, (RuleSet.ofRules rules).search t options slot = .ok found) ∧
        ∃ holds, (RuleSet.ofRules rules).holds t n = .ok holds) := by
  constructor
  · intro query h
    refine ⟨query.search_succeeds h t options slot, ?_⟩
    exact (query.search_succeeds h t {} (.node n)).bind fun _ => succeeds_ok _
  · intro rules h
    refine ⟨?_, RuleSet.holds_succeeds h n⟩
    exact gather_succeeds fun m _ => Tree.search_succeeds (RuleSet.holds_succeeds h) options m

/-- A block of two calls. The first has three arguments, the second of which is missing, the other
call has none. -/
def blockOfCalls : Tree (Fin 3) where
  kind n := if n = 0 then "block" else "call"
  source _ := "f"
  children n := if n = 0 then [.node 1, .node 2] else []
  siblings n := if n = 1 then [.node 2] else []
  accessor
    | 1, "args" => some (.list [.integer 1, .absent, .text "x"])
    | 2, "args" => some (.list [])
    | _, _ => none
  literal _ := none
  isTransparent _ := false
  height n := if n = 0 then 1 else 0
  height_lt := by decide

/-- The calls that are one of two other selectors, have an argument that is missing, and hold no
call without arguments. -/
def callQuery : Query :=
  [.last {
    kindTest := some ⟨"call", [
      ⟨⟨[]⟩, .memberOf, .array [.selector { kindTest := some ⟨"block", []⟩ },
        .selector { kindTest := some ⟨"call",
          [⟨⟨[.name "args", .index 0]⟩, .less, .integer 2⟩]⟩ }]⟩,
      ⟨⟨[.name "args"]⟩, .includes, .nil⟩]⟩
    pseudoTest := some ⟨.hasNot, [.last {
      kindTest := some ⟨"call", [⟨⟨[.name "args"]⟩, .equal, .array []⟩]⟩ }]⟩ }]

/-- More than two arguments, the last of which is one of two texts. -/
def callRules : List Rule :=
  [⟨"args", .rules [⟨"size", .rules [⟨"gt", .integer 2⟩]⟩,
    ⟨"last", .rules [⟨"in", .array [.text "x", .text "y"]⟩]⟩]⟩]

/-- The legal query and the legal rules do not fail on the block of calls. -/
theorem succeeds_of_isLegal_blockOfCalls :
    callQuery.isLegal = true ∧ (RuleSet.ofRules callRules).isLegal = true ∧
      (∃ found, callQuery.search blockOfCalls {} (.node 0) = .ok found) ∧
      ∃ holds, (RuleSet.ofRules callRules).holds blockOfCalls 1 = .ok holds := by
  have hquery : callQuery.isLegal = true := by decide
  have hrules : (RuleSet.ofRules callRules).isLegal = true := by decide
  obtain ⟨hqueries, hruleSets⟩ := succeeds_of_isLegal blockOfCalls {} (.node 0) 1
  exact ⟨hquery, hrules, (hqueries _ hquery).1, (hruleSets _ hrules).2⟩

end TreeQuery
