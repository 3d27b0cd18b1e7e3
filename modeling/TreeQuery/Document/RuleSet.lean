import TreeQuery.Json.Basic
import TreeQuery.Rule.Basic

/-!
# Rule sets written as documents

A rule set can be written as an object whose members are its rules. Objects inside are further
rules, and members keep their order, repeated keys included. Symbols, patterns and the expectation
that anything is present have no written form.

## Main definitions

* `RuleValue.ofJson?` — the expectation that a document stands for.
* `RuleSet.ofDocument` — the rule set that a text writes.
-/

namespace TreeQuery

/-- The expectation of a number. -/
def RuleValue.ofNumber : Number → RuleValue
  | .integer value => integer value
  | .float value => float value

/-- How many arrays and objects may stand inside one another, the outermost included. -/
def documentDepth : Nat := 127

mutual

/-- The expectation that a document stands for if it nests no deeper than `levels`. Numbers too
large for any double, and strings with half a surrogate pair, stand for nothing. -/
def RuleValue.ofJson? (levels : Nat) : Json → Option RuleValue
  | .null => some .nil
  | .boolean value => some (.boolean value)
  | .numeral value => value.number?.map RuleValue.ofNumber
  | .string units => (Json.decode? units).map fun text => .text (String.ofList text)
  | .array elements =>
    match levels with
    | 0 => none
    | levels + 1 => (RuleValue.ofElements? levels elements).map RuleValue.array
  | .object members =>
    match levels with
    | 0 => none
    | levels + 1 => (Rule.ofMembers? levels members).map RuleValue.rules

/-- The expectations that several documents stand for. -/
def RuleValue.ofElements? (levels : Nat) : List Json → Option (List RuleValue)
  | [] => some []
  | element :: elements => do
    let first ← RuleValue.ofJson? levels element
    let others ← RuleValue.ofElements? levels elements
    return first :: others

/-- The rule that a member stands for. -/
def Rule.ofMember? (levels : Nat) : Member → Option Rule
  | ⟨key, value⟩ => do
    let name ← Json.decode? key
    let expected ← RuleValue.ofJson? levels value
    return ⟨String.ofList name, expected⟩

/-- The rules that several members stand for. -/
def Rule.ofMembers? (levels : Nat) : List Member → Option (List Rule)
  | [] => some []
  | member :: members => do
    let first ← Rule.ofMember? levels member
    let others ← Rule.ofMembers? levels members
    return first :: others

end

/-- The rule set that a text writes. A document of another kind is refused as such even if more
text stands behind it. -/
def RuleSet.ofDocument (text : String) : Except DocumentError RuleSet :=
  match Json.read? (Json.tokens text.toList) with
  | none => .error .malformed
  | some document =>
    match RuleValue.ofJson? documentDepth document.value with
    | none => .error .malformed
    | some (.rules rules) =>
      if document.rest.isEmpty then .ok (RuleSet.ofRules rules) else .error .malformed
    | some _ => .error .notRules

end TreeQuery
