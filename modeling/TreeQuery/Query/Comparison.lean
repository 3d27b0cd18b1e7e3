import TreeQuery.Error
import TreeQuery.Fallible
import TreeQuery.Tree.Basic
import TreeQuery.Tree.Resolve

/-!
# Comparing a slot with a value

An attribute compares the slot that its path leads to with a value. What is compared depends on
the value: an identifier is compared with the source of a node as it stands, everything else with
what the node stands for.

Whether a slot is equal to an array or a selector hangs on parts of these that are themselves
compared, so that this module says how each operator is built from a test of equality, and leaves
that test open.

## Main definitions

* `Value.actualText?`, `Value.expectedText` — the two texts that a textual operator compares.
* `Value.isScalarEqual` — equality with a value that holds no others.
* `Value.compareBy` — the meaning of each operator, given tests of equality.
-/

namespace TreeQuery

/-- Whether one text occurs in another. -/
def Text.occursIn (part : List Char) : List Char → Bool
  | [] => part.isEmpty
  | c :: rest => part.isPrefixOf (c :: rest) || occursIn part rest

variable {ν : Type}

namespace Value

/-- The text of a slot that is compared with a textual value. An identifier is compared with the
slot as it stands, other texts with what it stands for. **Lists have no text to compare**, nor,
for a quoted text, has what is absent. -/
def actualText? (t : Tree ν) : Value → Slot ν → Option String
  | .identifier _, .list _ => none
  | .identifier _, slot => some (t.text slot)
  | _, slot =>
    match t.reduce slot with
    | .absent => none
    | .list _ => none
    | reduced => some (t.text reduced)

/-- The text of a value, templates filled in from the base node. -/
def expectedText (t : Tree ν) (base : ν) : Value → String
  | .text value => value
  | .identifier value => value
  | .symbol value => value
  | .template value => t.expandTemplate value base
  | value => value.toText

/-- Compares the texts of slot and value. Without a text to compare nothing holds. -/
def compareTexts (t : Tree ν) (base : ν) (value : Value)
    (holds : (actual expected : List Char) → Bool) (slot : Slot ν) : Bool :=
  match value.actualText? t slot with
  | some actual => holds actual.toList (value.expectedText t base).toList
  | none => false

/-- Compares the numbers of slot and value. Without two numbers nothing holds. -/
def compareNumbers (t : Tree ν) (value : Value) (holds : (actual expected : Number) → Bool)
    (slot : Slot ν) : Bool :=
  match (t.reduce slot).number?, value.number? with
  | some actual, some expected => holds actual expected
  | _, _ => false

/-- Whether a slot is the symbol of a name: a symbol or text of that name, or a node that is
written like it. -/
def isSymbol (t : Tree ν) (name : String) (slot : Slot ν) : Bool :=
  match t.reduce slot with
  | .symbol value => value == name
  | .text value => value == name
  | .node n => t.source n == ":" ++ name || t.source n == name
  | _ => false

/-- Whether a pattern matches the text of a slot as it stands. **Nothing matches what is
absent.** -/
def isLike (t : Tree ν) (value : Value) (slot : Slot ν) : Bool :=
  match value, slot with
  | .pattern _, .absent => false
  | .pattern p, slot => p.isMatch (t.text slot)
  | _, _ => false

/-- The elements whose membership is asked: those of a list as it stands, or the slot itself. -/
def members : Slot ν → List (Slot ν)
  | .list items => items
  | slot => [slot]

/-- Whether a slot is equal to a value that holds no other values. -/
def isScalarEqual (t : Tree ν) (base : ν) (value : Value) (slot : Slot ν) : Bool :=
  match value with
  | .text _ | .template _ | .identifier _ => value.compareTexts t base (· == ·) slot
  | .symbol name => isSymbol t name slot
  | .integer _ | .float _ => value.compareNumbers t Number.equals slot
  | .boolean truth => (t.reduce slot).boolean? == some truth
  | .nil => (t.reduce slot).isAbsent
  | .pattern _ | .array _ | .selector _ => false

/-- The meaning of the operators. `isEqual` and `differs` test a slot against the value, `isMember`
and `isNoMember` against the elements of the array that the value is. -/
def compareBy (t : Tree ν) (base : ν) (value : Value)
    (isEqual differs isMember isNoMember : Slot ν → Except MatchError Bool) (operator : Operator)
    (slot : Slot ν) : Except MatchError Bool :=
  if operator ∈ value.operators then
    match operator with
    | .equal => isEqual slot
    | .notEqual => differs slot
    | .startsWith => .ok (value.compareTexts t base (fun a e => e.isPrefixOf a) slot)
    | .endsWith => .ok (value.compareTexts t base (fun a e => e.isSuffixOf a) slot)
    | .contains => .ok (value.compareTexts t base (fun a e => Text.occursIn e a) slot)
    | .greater => .ok (value.compareNumbers t (fun a e => e.less a) slot)
    | .greaterOrEqual => .ok (value.compareNumbers t (fun a e => e.lessOrEqual a) slot)
    | .less => .ok (value.compareNumbers t Number.less slot)
    | .lessOrEqual => .ok (value.compareNumbers t Number.lessOrEqual slot)
    | .like => .ok (value.isLike t slot)
    | .unlike => .ok (!value.isLike t slot)
    | .memberOf => Fallible.all isMember (members slot)
    | .notMemberOf => Fallible.all isNoMember (members slot)
    | .includes =>
      match Tree.elements? slot (t.reduce slot) with
      | some items => Fallible.any isEqual items
      | none => .ok false
    | .notIncludes =>
      match Tree.elements? slot (t.reduce slot) with
      | some items => return !(← Fallible.any isEqual items)
      | none => .ok false
  else .error (.invalidOperator operator value)

end Value

end TreeQuery
