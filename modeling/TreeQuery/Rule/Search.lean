import TreeQuery.Error
import TreeQuery.Rule.Basic
import TreeQuery.Text.Character
import TreeQuery.Tree.Basic
import TreeQuery.Tree.Resolve
import TreeQuery.Tree.Search

/-!
# Running rule sets

A rule set holds of a node when each of its conditions does. Searching with a rule set tests every
candidate alone; unlike a query, a rule set never moves.

Rules are looser than the values of a query: a text agrees with a source text whether or not
either carries quotes.

## Main definitions

* `RuleValue.agrees` — whether a slot agrees with an expectation.
* `Condition.holds`, `RuleSet.holds` — tests of a single node.
* `RuleSet.search` — the nodes of which a rule set holds.
-/

namespace TreeQuery

variable {ν : Type}

/-- Whether a slot agrees with a text: a node by its source, with or without quotes on either
side, and a scalar by its text, bare or between quotes. **Lists agree with no text.** -/
def Tree.agreesWithText (t : Tree ν) (expected : String) (slot : Slot ν) : Bool :=
  match slot with
  | .node n =>
    let source := (t.source n).toList
    let expected := expected.toList
    source == expected || source == Text.unquoted expected ||
      Text.unquoted source == expected || Text.unquoted source == Text.unquoted expected
  | .list _ => false
  | scalar =>
    let actual := (t.text scalar).toList
    actual == expected.toList || Text.quoted actual == expected.toList

/-- Whether a slot, as it stands, is the symbol of a name. -/
def Tree.agreesWithSymbol (t : Tree ν) (name : String) : Slot ν → Bool
  | .node n => t.source n == ":" ++ name || t.source n == name
  | .symbol value => value == name
  | .text value => value == name
  | _ => false

/-- Whether a slot has a text that a pattern matches. -/
def Tree.agreesWithPattern (t : Tree ν) (pattern : Pattern) : Slot ν → Bool
  | .list _ => false
  | .absent => false
  | slot => pattern.isMatch (t.text slot)

/-- Whether a slot stands for a number that compares with an expected one. -/
def Tree.agreesWithNumber (t : Tree ν) (holds : (actual expected : Number) → Bool)
    (expected : Number) (slot : Slot ν) : Bool :=
  match (t.reduce slot).number? with
  | some actual => holds actual expected
  | none => false

mutual

/-- Whether a slot agrees with an expectation. -/
def RuleValue.agrees (t : Tree ν) : RuleValue → Slot ν → Except RuleFault Bool
  | .any, slot => .ok !slot.isAbsent
  | .nil, slot => .ok (t.reduce slot).isAbsent
  | .boolean value, slot => .ok ((t.reduce slot).boolean? == some value)
  | .integer value, slot => .ok (t.agreesWithNumber Number.equals (.integer value) slot)
  | .float value, slot => .ok (t.agreesWithNumber Number.equals (.float value) slot)
  | .text value, slot => .ok (t.agreesWithText value slot)
  | .symbol value, slot => .ok (t.agreesWithSymbol value slot)
  | .pattern value, slot => .ok (t.agreesWithPattern value slot)
  | .array values, slot =>
    match Tree.elements? slot (t.reduce slot) with
    | some items =>
      if items.length = values.length then RuleValue.agreeAll t values items else .ok false
    | none => .ok false
  | .rules _, _ => .error .nestedRule
termination_by structural value => value

/-- Whether slots agree with expectations, one by one. -/
def RuleValue.agreeAll (t : Tree ν) : List RuleValue → List (Slot ν) → Except RuleFault Bool
  | value :: values, item :: items => do
    if ← value.agrees t item then RuleValue.agreeAll t values items else return false
  | _, _ => .ok true
termination_by structural values => values

end

/-- Whether a slot compares with an expectation as a keyword says, or agrees with it if there is
no keyword. -/
def RuleValue.compare (t : Tree ν) (expected : RuleValue) (keyword : Option Keyword)
    (slot : Slot ν) : Except RuleFault Bool :=
  let isElement := fun slot =>
    match expected with
    | .array values => Fallible.any (fun value => value.agrees t slot) values
    | _ => .error .arrayExpected
  let ordered := fun holds =>
    match expected.number? with
    | some number => .ok (t.agreesWithNumber holds number slot)
    | none => .error .numberExpected
  let someElement := fun (items : List (Slot ν)) =>
    Fallible.any (fun item => expected.agrees t item) items
  match keyword with
  | none => expected.agrees t slot
  | some .not => return !(← expected.agrees t slot)
  | some .memberOf => isElement slot
  | some .notMemberOf => return !(← isElement slot)
  | some .greater => ordered fun a e => e.less a
  | some .greaterOrEqual => ordered fun a e => e.lessOrEqual a
  | some .less => ordered Number.less
  | some .lessOrEqual => ordered Number.lessOrEqual
  | some .includes =>
    match Tree.elements? slot (t.reduce slot) with
    | some items => someElement items
    | none => .ok false
  | some .notIncludes =>
    match Tree.elements? slot (t.reduce slot) with
    | some items => return !(← someElement items)
    | none => .ok false

/-- An expectation with its template filled in. Texts inside arrays are not templates. -/
def RuleValue.expand (t : Tree ν) (base : ν) : RuleValue → RuleValue
  | .text template => .text (t.expandTemplate template base)
  | expected => expected

/-- Whether a condition holds of a node. -/
def Condition.holds (t : Tree ν) (condition : Condition) (n : ν) : Except MatchError Bool :=
  match (condition.expected.expand t n).compare t condition.keyword?
      (t.resolve n condition.path) with
  | .ok holds => .ok holds
  | .error fault => .error (.unsupportedRule condition.key fault)

/-- A condition holds of a node, or does not, as what its path leads to compares. -/
theorem Condition.holds_eq_ok_iff {t : Tree ν} {condition : Condition} {n : ν} {answer : Bool} :
    condition.holds t n = .ok answer ↔
      (condition.expected.expand t n).compare t condition.keyword?
        (t.resolve n condition.path) = .ok answer := by
  unfold Condition.holds
  cases (condition.expected.expand t n).compare t condition.keyword?
    (t.resolve n condition.path) <;> simp

namespace RuleSet

/-- Whether every condition holds of a node. -/
def holds (t : Tree ν) (ruleSet : RuleSet) (n : ν) : Except MatchError Bool :=
  Fallible.all (fun condition => condition.holds t n) ruleSet.conditions

/-- The nodes found from a slot of which the rule set holds. -/
def search (t : Tree ν) (options : Options) (ruleSet : RuleSet) (slot : Slot ν) :
    Except MatchError (List ν) :=
  Fallible.gather (t.search options (ruleSet.holds t)) slot.nodes

end RuleSet

end TreeQuery
