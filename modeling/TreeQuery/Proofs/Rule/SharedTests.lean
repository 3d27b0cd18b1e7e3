import TreeQuery.Proofs.Query.Opposites
import TreeQuery.Proofs.Rule.Kinds

/-!
# Tests that both notations write

A query and a rule set are compared by two engines that share no code. Some tests can be written in
both: equality with a constant, order of numbers, and inclusion of a constant in a list. For a kind
and any row of such tests **the two engines find the same nodes, and neither of them fails**.

Both engines are compared with one pure meaning, a truth value for every constant and slot.

## Main definitions and results

* `Constant`, `SharedTest` — the tests, with `SharedTest.toAttribute` and `SharedTest.toRule` as the
  two ways to write them.
* `SharedTest.passes` — their meaning.
* `SharedTest.exists_found_by_both`: **both notations find the same nodes**.
-/

namespace TreeQuery

variable {ν : Type}

/-! ### Constants -/

/-- A value that both notations write. -/
inductive Constant where
  /-- Nothing. -/
  | nil
  /-- A truth value. -/
  | boolean (value : Bool)
  /-- An integer. -/
  | integer (value : Int64)
  /-- A double. -/
  | float (value : Binary64)
  /-- Elements, one by one. -/
  | array (items : List Constant)

namespace Constant

mutual

/-- The constant as a value of a query. -/
def toValue : Constant → Value
  | nil => .nil
  | boolean value => .boolean value
  | integer value => .integer value
  | float value => .float value
  | array items => .array (toValues items)

/-- The constants as values of a query. -/
def toValues : List Constant → List Value
  | [] => []
  | first :: others => first.toValue :: toValues others

end

mutual

/-- The constant as a value of a rule. -/
def toRuleValue : Constant → RuleValue
  | nil => .nil
  | boolean value => .boolean value
  | integer value => .integer value
  | float value => .float value
  | array items => .array (toRuleValues items)

/-- The constants as values of rules. -/
def toRuleValues : List Constant → List RuleValue
  | [] => []
  | first :: others => first.toRuleValue :: toRuleValues others

end

/-- The number that a constant is. -/
def number? : Constant → Option Number
  | integer value => some (.integer value)
  | float value => some (.float value)
  | _ => none

/-- Whether a constant is an array. -/
def isArray : Constant → Bool
  | array _ => true
  | _ => false

mutual

/-- Whether a slot is equal to a constant. -/
def isEqual (t : Tree ν) : Constant → Slot ν → Bool
  | nil, slot => (t.reduce slot).isAbsent
  | boolean value, slot => (t.reduce slot).boolean? == some value
  | integer value, slot => t.agreesWithNumber Number.equals (.integer value) slot
  | float value, slot => t.agreesWithNumber Number.equals (.float value) slot
  | array constants, slot =>
    match Tree.elements? slot (t.reduce slot) with
    | some items => items.length == constants.length && areEqual t constants items
    | none => false

/-- Whether slots are equal to constants, one by one. -/
def areEqual (t : Tree ν) : List Constant → List (Slot ν) → Bool
  | constant :: constants, item :: items => constant.isEqual t item && areEqual t constants items
  | _, _ => true

end

theorem length_toValues (constants : List Constant) :
    (toValues constants).length = constants.length := by
  induction constants with
  | nil => rfl
  | cons first others ih => rw [toValues, List.length_cons, ih, List.length_cons]

theorem length_toRuleValues (constants : List Constant) :
    (toRuleValues constants).length = constants.length := by
  induction constants with
  | nil => rfl
  | cons first others ih => rw [toRuleValues, List.length_cons, ih, List.length_cons]

/-! ### Equality in both engines -/

/-- A value that is a number compares with a slot as the number does. -/
theorem compareNumbers_eq (t : Tree ν) (value : Value) {number : Number}
    (h : value.number? = some number) (holds : Number → Number → Bool) (slot : Slot ν) :
    value.compareNumbers t holds slot = t.agreesWithNumber holds number slot := by
  unfold Value.compareNumbers Tree.agreesWithNumber
  rw [h]
  cases (t.reduce slot).number? <;> rfl

mutual

/-- **A query compares a slot with a constant without failing.** -/
theorem isEqual_toValue (t : Tree ν) (base : ν) :
    ∀ (constant : Constant) (slot : Slot ν),
      constant.toValue.isEqual t base slot = .ok (constant.isEqual t slot)
  | nil, slot => rfl
  | boolean value, slot => rfl
  | integer value, slot => congrArg Except.ok (compareNumbers_eq t (.integer value) rfl _ slot)
  | float value, slot => congrArg Except.ok (compareNumbers_eq t (.float value) rfl _ slot)
  | array constants, slot => by
    rw [toValue, Value.isEqual, isEqual]
    cases Tree.elements? slot (t.reduce slot) with
    | none => rfl
    | some items =>
      dsimp only
      rw [length_toValues, areEqual_toValues t base constants items]
      by_cases hlength : items.length = constants.length <;> simp [hlength]
termination_by structural constant => constant

/-- A query compares constants with slots one by one as they are defined to be equal. -/
theorem areEqual_toValues (t : Tree ν) (base : ν) :
    ∀ (constants : List Constant) (items : List (Slot ν)),
      Value.areEqual t base (toValues constants) items = .ok (areEqual t constants items)
  | [], items => rfl
  | constant :: constants, [] => rfl
  | constant :: constants, item :: items => by
    rw [toValues, Value.areEqual, isEqual_toValue t base constant item, areEqual]
    cases constant.isEqual t item with
    | false => rfl
    | true => exact areEqual_toValues t base constants items
termination_by structural constants => constants

end

mutual

/-- **A rule compares a slot with a constant without failing.** -/
theorem agrees_toRuleValue (t : Tree ν) :
    ∀ (constant : Constant) (slot : Slot ν),
      constant.toRuleValue.agrees t slot = .ok (constant.isEqual t slot)
  | nil, slot => rfl
  | boolean value, slot => rfl
  | integer value, slot => rfl
  | float value, slot => rfl
  | array constants, slot => by
    rw [toRuleValue, RuleValue.agrees, isEqual]
    cases Tree.elements? slot (t.reduce slot) with
    | none => rfl
    | some items =>
      dsimp only
      rw [length_toRuleValues, agreeAll_toRuleValues t constants items]
      by_cases hlength : items.length = constants.length <;> simp [hlength]
termination_by structural constant => constant

/-- A rule compares constants with slots one by one as they are defined to be equal. -/
theorem agreeAll_toRuleValues (t : Tree ν) :
    ∀ (constants : List Constant) (items : List (Slot ν)),
      RuleValue.agreeAll t (toRuleValues constants) items = .ok (areEqual t constants items)
  | [], items => rfl
  | constant :: constants, [] => rfl
  | constant :: constants, item :: items => by
    rw [toRuleValues, RuleValue.agreeAll, agrees_toRuleValue t constant item, areEqual]
    cases constant.isEqual t item with
    | false => rfl
    | true => exact agreeAll_toRuleValues t constants items
termination_by structural constants => constants

end

/-! ### Operators -/

/-- Whether both notations compare with the constant as the operator says: equality goes with every
constant, order with numbers, and inclusion with all but arrays. -/
def admits (constant : Constant) : Operator → Bool
  | .equal | .notEqual => true
  | .greater | .greaterOrEqual | .less | .lessOrEqual => constant.number?.isSome
  | .includes | .notIncludes => !constant.isArray
  | _ => false

/-- An operator that both notations have for a constant is one that its value admits. -/
theorem mem_operators {constant : Constant} {operator : Operator}
    (h : constant.admits operator = true) : operator ∈ constant.toValue.operators := by
  revert h
  cases operator <;> cases constant <;>
    simp [admits, number?, isArray, toValue, Value.operators, Operator.ofScalar,
      Operator.ofNumber, Operator.ofArray]

theorem number?_toValue (constant : Constant) : constant.toValue.number? = constant.number? := by
  cases constant <;> rfl

theorem number?_toRuleValue (constant : Constant) :
    constant.toRuleValue.number? = constant.number? := by
  cases constant <;> rfl

/-- Constants hold no rules and no templates. -/
theorem conditions_toRuleValue (constant : Constant) (keys : List String) :
    constant.toRuleValue.conditions keys = [⟨keys, constant.toRuleValue⟩] := by
  cases constant <;> rfl

/-- A constant has no template to be filled in. -/
theorem expand_toRuleValue (constant : Constant) (t : Tree ν) (n : ν) :
    constant.toRuleValue.expand t n = constant.toRuleValue := by
  cases constant <;> rfl

end Constant

/-- The word with which a rule asks for an operator other than equality. -/
def Operator.word? : Operator → Option String
  | notEqual => some "not"
  | greater => some "gt"
  | greaterOrEqual => some "gte"
  | less => some "lt"
  | lessOrEqual => some "lte"
  | includes => some "includes"
  | notIncludes => some "not_includes"
  | _ => none

/-! ### Tests -/

/-- A test that both notations write: what a key leads to is compared with a constant. A rule has no
word for equality, so that **the key itself must not be a word that names a comparison**. -/
structure SharedTest where
  /-- The key. -/
  key : String
  /-- The comparison. -/
  operator : Operator
  /-- What is compared with. -/
  constant : Constant
  /-- Both notations compare so. -/
  admits : constant.admits operator = true
  /-- An equality is not taken for another comparison. -/
  key_ne : operator = .equal → Keyword.ofKey? key = none

namespace SharedTest

/-- The test in a query. -/
def toAttribute (test : SharedTest) : Attribute :=
  ⟨KeyPath.ofChars test.key.toList, test.operator, test.constant.toValue⟩

/-- The test in a rule set: for an operator with a word, a rule that holds another one. -/
def toRule (test : SharedTest) : Rule :=
  match test.operator.word? with
  | some word => ⟨test.key, .rules [⟨word, test.constant.toRuleValue⟩]⟩
  | none => ⟨test.key, test.constant.toRuleValue⟩

/-- Whether the number that a slot stands for compares with a constant. -/
def compares (t : Tree ν) (constant : Constant) (holds : (actual expected : Number) → Bool)
    (slot : Slot ν) : Bool :=
  match constant.number? with
  | some number => t.agreesWithNumber holds number slot
  | none => false

/-- Whether some element of a list, or none, is equal to a constant. What is no list passes
neither. -/
def includes (t : Tree ν) (constant : Constant) (wanted : Bool) (slot : Slot ν) : Bool :=
  match Tree.elements? slot (t.reduce slot) with
  | some items => items.any (constant.isEqual t) == wanted
  | none => false

/-- What a test means. -/
def passes (t : Tree ν) (test : SharedTest) (n : ν) : Bool :=
  let slot := t.resolve n (KeyPath.ofChars test.key.toList)
  match test.operator with
  | .equal => test.constant.isEqual t slot
  | .notEqual => !test.constant.isEqual t slot
  | .greater => compares t test.constant (fun a e => e.less a) slot
  | .greaterOrEqual => compares t test.constant (fun a e => e.lessOrEqual a) slot
  | .less => compares t test.constant Number.less slot
  | .lessOrEqual => compares t test.constant Number.lessOrEqual slot
  | .includes => includes t test.constant true slot
  | .notIncludes => includes t test.constant false slot
  | _ => false

/-! ### Inclusion -/

variable {ε : Type} {test : Slot ν → Except ε Bool}

/-- What is asked of the elements of a slot that has some, and is answered by what they include. -/
theorem elements_eq_includes (t : Tree ν) (constant : Constant) (wanted : Bool)
    {ask : List (Slot ν) → Except ε Bool}
    (h : ∀ items, ask items = .ok (items.any (constant.isEqual t) == wanted)) (slot : Slot ν) :
    (match Tree.elements? slot (t.reduce slot) with
      | some items => ask items
      | none => .ok false) = .ok (includes t constant wanted slot) := by
  unfold includes
  cases Tree.elements? slot (t.reduce slot) with
  | none => rfl
  | some items => exact h items

/-- A search for an element that agrees finds out whether a list includes the constant. -/
theorem any_eq_includes (t : Tree ν) (constant : Constant)
    (h : ∀ item, test item = .ok (constant.isEqual t item)) (slot : Slot ν) :
    (match Tree.elements? slot (t.reduce slot) with
      | some items => Fallible.any test items
      | none => .ok false) = .ok (includes t constant true slot) := by
  refine elements_eq_includes t constant true (fun items => ?_) slot
  rw [Fallible.any_eq_ok fun item _ => h item, beq_true]

/-- A search among the elements finds out whether a list does not include a constant. -/
theorem not_any_eq_includes (t : Tree ν) (constant : Constant)
    (h : ∀ item, test item = .ok (constant.isEqual t item)) (slot : Slot ν) :
    (match Tree.elements? slot (t.reduce slot) with
      | some items => Fallible.any test items >>= fun found => .ok !found
      | none => .ok false) = .ok (includes t constant false slot) := by
  refine elements_eq_includes t constant false (fun items => ?_) slot
  rw [Fallible.any_eq_ok fun item _ => h item, beq_false]
  rfl

/-! ### The test in a query -/

/-- A query compares a constant as a number with a slot as the shared test means it. -/
theorem compareNumbers_toValue (t : Tree ν) (constant : Constant)
    (holds : (actual expected : Number) → Bool) (slot : Slot ν) :
    constant.toValue.compareNumbers t holds slot = compares t constant holds slot := by
  unfold compares
  cases h : constant.number? with
  | some number =>
    exact Constant.compareNumbers_eq t _ ((constant.number?_toValue).trans h) holds slot
  | none =>
    unfold Value.compareNumbers
    rw [constant.number?_toValue, h]
    cases (t.reduce slot).number? <;> rfl

/-- A query asks for the meaning of the test, and does not fail. -/
theorem holds_toAttribute (t : Tree ν) (test : SharedTest) (base n : ν) :
    test.toAttribute.holds t base n = .ok (test.passes t n) := by
  obtain ⟨key, operator, constant, hadmits, hkey⟩ := test
  rw [Attribute.holds_eq, Value.holds]
  unfold Value.compareBy
  dsimp only [toAttribute]
  refine (if_pos (Constant.mem_operators hadmits)).trans ?_
  generalize hslot : t.resolve n (KeyPath.ofChars key.toList) = slot
  dsimp only [passes]
  rw [hslot]
  cases operator with
  | equal => exact constant.isEqual_toValue t base slot
  | notEqual => exact Value.differs_eq_ok (constant.isEqual_toValue t base slot)
  | greater | greaterOrEqual | less | lessOrEqual =>
    exact congrArg Except.ok (compareNumbers_toValue t constant _ slot)
  | includes => exact any_eq_includes t constant (constant.isEqual_toValue t base) slot
  | notIncludes => exact not_any_eq_includes t constant (constant.isEqual_toValue t base) slot
  | _ => cases hadmits

/-! ### The test in a rule set -/

/-- The keys under which a rule set holds the constant of the test. -/
def keys (test : SharedTest) : List String := test.key :: test.operator.word?.toList

/-- The condition that a rule set makes of the test. -/
def condition (test : SharedTest) : Condition := ⟨test.keys, test.constant.toRuleValue⟩

/-- The rule of a shared test has one condition. -/
theorem conditions_toRule (test : SharedTest) : test.toRule.conditions [] = [test.condition] := by
  unfold toRule condition keys
  cases test.operator.word? with
  | none => exact test.constant.conditions_toRuleValue [test.key]
  | some word =>
    have hinner := test.constant.conditions_toRuleValue [test.key, word]
    simpa [Rule.conditions, RuleValue.conditions, Rule.conditionsOfAll] using hinner

/-- The comparison that the keys of the test name. -/
theorem keyword?_condition (test : SharedTest) :
    test.condition.keyword? = test.operator.word?.bind Keyword.ofKey? := by
  obtain ⟨key, operator, constant, hadmits, hkey⟩ := test
  cases operator with
  | equal => exact hkey rfl
  | _ => first | rfl | cases hadmits

/-- The path of the condition is that of the attribute. -/
theorem path_condition (test : SharedTest) :
    test.condition.path = KeyPath.ofChars test.key.toList := by
  unfold Condition.path
  rw [keyword?_condition]
  obtain ⟨key, operator, constant, hadmits, hkey⟩ := test
  cases operator <;> rfl

/-- A rule compares a constant as a number with a slot as the shared test means it. -/
theorem compare_toRuleValue_ordered (t : Tree ν) {constant : Constant}
    (hnumber : constant.number?.isSome = true) (holds : (actual expected : Number) → Bool)
    (slot : Slot ν) :
    (match constant.toRuleValue.number? with
      | some number => .ok (t.agreesWithNumber holds number slot)
      | none => .error .numberExpected : Except RuleFault Bool) =
      .ok (compares t constant holds slot) := by
  obtain ⟨number, hsome⟩ := Option.isSome_iff_exists.mp hnumber
  rw [constant.number?_toRuleValue, compares, hsome]

/-- A rule set asks for the meaning of the test, and does not fail. -/
theorem holds_condition (t : Tree ν) (test : SharedTest) (n : ν) :
    test.condition.holds t n = .ok (test.passes t n) := by
  rw [Condition.holds_eq_ok_iff, test.keyword?_condition, test.path_condition]
  obtain ⟨key, operator, constant, hadmits, hkey⟩ := test
  dsimp only [condition]
  rw [constant.expand_toRuleValue]
  generalize hslot : t.resolve n (KeyPath.ofChars key.toList) = slot
  dsimp only [passes]
  rw [hslot]
  cases operator with
  | equal =>
    rw [show Operator.equal.word?.bind Keyword.ofKey? = none from rfl]
    exact constant.agrees_toRuleValue t slot
  | notEqual =>
    rw [show Operator.notEqual.word?.bind Keyword.ofKey? = some .not from rfl]
    unfold RuleValue.compare
    dsimp only
    rw [constant.agrees_toRuleValue]
    rfl
  | greater | greaterOrEqual | less | lessOrEqual =>
    exact compare_toRuleValue_ordered t hadmits _ slot
  | includes => exact any_eq_includes t constant (constant.agrees_toRuleValue t) slot
  | notIncludes => exact not_any_eq_includes t constant (constant.agrees_toRuleValue t) slot
  | _ => cases hadmits

/-! ### Both searches -/

/-- The selector of a kind and tests. -/
def selector (kind : String) (tests : List SharedTest) : Selector :=
  { kindTest := some ⟨kind, tests.map toAttribute⟩ }

/-- The rule set of a kind and tests. -/
def ruleSet (kind : String) (tests : List SharedTest) : RuleSet :=
  .ofRules (⟨"node_type", .text kind⟩ :: tests.map toRule)

/-- The attributes of shared tests hold when all of the tests pass. -/
theorem allHold_map_toAttribute (t : Tree ν) (tests : List SharedTest) (base n : ν) :
    Attribute.allHold t base (tests.map toAttribute) n =
      .ok (tests.all fun test => test.passes t n) := by
  rw [Attribute.allHold_eq_all, Fallible.all_map]
  exact Fallible.all_eq_ok fun test _ => holds_toAttribute t test base n

/-- The rules of shared tests have the conditions of the tests. -/
theorem conditionsOfAll_map_toRule (tests : List SharedTest) :
    Rule.conditionsOfAll [] (tests.map toRule) = tests.map condition := by
  induction tests with
  | nil => rfl
  | cons test tests ih =>
    rw [List.map_cons, Rule.conditionsOfAll, conditions_toRule, ih]
    rfl

/-- The conditions of shared tests hold when all of the tests pass. -/
theorem all_conditions_toRule (t : Tree ν) (tests : List SharedTest) (n : ν) :
    Fallible.all (fun condition => condition.holds t n)
      (Rule.conditionsOfAll [] (tests.map toRule)) =
      .ok (tests.all fun test => test.passes t n) := by
  rw [conditionsOfAll_map_toRule, Fallible.all_map]
  exact Fallible.all_eq_ok fun test _ => holds_condition t test n

/-- **The selector and the rule set of a kind and tests find the same nodes**, and neither of them
fails, from whatever slot they search and with whatever options. -/
theorem exists_found_by_both {kind : String} (hkind : isKindName kind = true)
    (tests : List SharedTest) (t : Tree ν) (options : Options) (slot : Slot ν) :
    ∃ found, (selector kind tests).search t options slot = .ok found ∧
      (ruleSet kind tests).search t options slot = .ok found :=
  search_kind_eq hkind (fun n => allHold_map_toAttribute t tests n n)
    (all_conditions_toRule t tests) options slot

/-- A node of the kind `call` with two arguments, the second of which is missing. -/
def loneCall : Tree Unit where
  kind _ := "call"
  source _ := "f(1)"
  children _ := []
  siblings _ := []
  accessor _ name := if name = "args" then some (.list [.integer 1, .absent]) else none
  literal _ := none
  isTransparent _ := false
  height _ := 0
  height_lt _ _ h := nomatch h

/-- Some argument is missing, there are more arguments than one, and they are not a missing one
before the integer 1. -/
def argumentTests : List SharedTest :=
  [⟨"args", .includes, .nil, rfl, nofun⟩, ⟨"args.size", .greater, .integer 1, rfl, nofun⟩,
    ⟨"args", .notEqual, .array [.nil, .integer 1], rfl, nofun⟩]

/-- Both notations find the call by its arguments. -/
theorem exists_found_by_both_loneCall :
    isKindName "call" = true ∧
      (selector "call" argumentTests).search loneCall { recursive := false } (.node ()) =
        .ok [()] ∧
      (ruleSet "call" argumentTests).search loneCall { recursive := false } (.node ()) =
        .ok [()] := by
  have hkind : isKindName "call" = true := by decide
  have hselector : (selector "call" argumentTests).search loneCall { recursive := false }
      (.node ()) = .ok [()] := rfl
  obtain ⟨found, hfound, hruleSet⟩ :=
    exists_found_by_both hkind argumentTests loneCall { recursive := false } (.node ())
  obtain rfl := Except.ok.inj (hfound.symm.trans hselector)
  exact ⟨hkind, hselector, hruleSet⟩

end SharedTest

end TreeQuery
