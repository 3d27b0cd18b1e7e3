import TreeQuery.KeyPath
import TreeQuery.Number
import TreeQuery.Pattern

/-!
# Rules

A rule set says declaratively what holds of a node: keys lead to values, and what they lead to in
the tree has to agree with the value. A rule can hold further rules, whose keys go on where its
own key ends, so that a rule set is a tree whose leaves are the conditions.

A condition's keys, joined by dots, spell a key path, except that **the last key may be a keyword
that names the comparison** instead of a step of the path.

## Main definitions

* `RuleValue`, `Rule` — what a rule set is written with.
* `Condition` — a leaf of a rule set under all its keys.
* `RuleSet.ofRules` — the conditions of rules in order.
-/

namespace TreeQuery

mutual

/-- What a rule expects. -/
inductive RuleValue where
  /-- Nothing. -/
  | nil
  /-- A truth value. -/
  | boolean (value : Bool)
  /-- An integer. -/
  | integer (value : Int64)
  /-- A double. -/
  | float (value : Binary64)
  /-- A text. -/
  | text (value : String)
  /-- A symbol. -/
  | symbol (value : String)
  /-- A text that the pattern matches. -/
  | pattern (value : Pattern)
  /-- Elements, one by one. -/
  | array (items : List RuleValue)
  /-- Further rules. -/
  | rules (rules : List Rule)
  /-- Anything that is present. -/
  | any

/-- A key and what is expected there. -/
structure Rule where
  /-- The key. -/
  key : String
  /-- The expectation. -/
  value : RuleValue

end

/-- The number that is expected. -/
def RuleValue.number? : RuleValue → Option Number
  | integer value => some (.integer value)
  | float value => some (.float value)
  | _ => none

/-- A comparison named by the last key of a condition. -/
inductive Keyword where
  /-- The value does not agree. -/
  | not
  /-- An element of the array agrees. -/
  | memberOf
  /-- No element of the array agrees. -/
  | notMemberOf
  /-- The number found is larger. -/
  | greater
  /-- The number found is larger or equal. -/
  | greaterOrEqual
  /-- The number found is smaller. -/
  | less
  /-- The number found is smaller or equal. -/
  | lessOrEqual
  /-- Some element of what is found agrees. -/
  | includes
  /-- No element of what is found agrees. -/
  | notIncludes
  deriving DecidableEq

/-- The keyword that a key is. -/
def Keyword.ofKey? : String → Option Keyword
  | "not" => some not
  | "in" => some memberOf
  | "not_in" => some notMemberOf
  | "gt" => some greater
  | "gte" => some greaterOrEqual
  | "lt" => some less
  | "lte" => some lessOrEqual
  | "includes" => some includes
  | "any" => some includes
  | "not_includes" => some notIncludes
  | _ => none

/-- An expectation that holds no further rules itself, under the keys from the outermost one
inwards. -/
structure Condition where
  /-- The keys. -/
  keys : List String
  /-- The expectation. -/
  expected : RuleValue

namespace Condition

/-- All keys joined by dots. -/
def key (condition : Condition) : String := ".".intercalate condition.keys

/-- The comparison that the innermost key names. -/
def keyword? (condition : Condition) : Option Keyword :=
  condition.keys.getLast?.bind Keyword.ofKey?

/-- The path that the keys spell, without a keyword. -/
def path (condition : Condition) : KeyPath :=
  let keys := if condition.keyword?.isSome then condition.keys.dropLast else condition.keys
  KeyPath.ofChars (".".intercalate keys).toList

end Condition

mutual

/-- The conditions of an expectation under given keys. -/
def RuleValue.conditions (keys : List String) : RuleValue → List Condition
  | .rules rules => Rule.conditionsOfAll keys rules
  | expected => [⟨keys, expected⟩]

/-- The conditions of a rule under given keys. -/
def Rule.conditions (keys : List String) : Rule → List Condition
  | ⟨key, value⟩ => value.conditions (keys ++ [key])

/-- The conditions of several rules under given keys. -/
def Rule.conditionsOfAll (keys : List String) : List Rule → List Condition
  | [] => []
  | rule :: rules => rule.conditions keys ++ Rule.conditionsOfAll keys rules

end

/-- Conditions that have to hold together. -/
structure RuleSet where
  /-- The conditions in order. -/
  conditions : List Condition

namespace RuleSet

/-- The rule set of a list of rules. **A rule that holds no rules vanishes.** -/
def ofRules (rules : List Rule) : RuleSet := ⟨Rule.conditionsOfAll [] rules⟩

/-- The joined keys of the conditions with what they expect. -/
def entries (ruleSet : RuleSet) : List (String × RuleValue) :=
  ruleSet.conditions.map fun condition => (condition.key, condition.expected)

end RuleSet

end TreeQuery
