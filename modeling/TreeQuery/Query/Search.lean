import TreeQuery.Query.Comparison
import TreeQuery.Tree.Resolve
import TreeQuery.Tree.Search

/-!
# Running queries

A query starts from a slot and lists nodes: each alternative in turn, its selectors one below the
other. A selector with a move goes on from where the move leads. Any other selector tests nodes,
and a position keeps the first or last of those that pass.

**Nodes are listed as often as they are found**: neither alternatives nor the links of a chain
remove what was found before.

## Main definitions

* `Tree.reached` — the nodes that a combinator leads to.
* `Value.isEqual`, `Value.differs` — tests of a single slot.
* `Attribute.holds`, `Selector.holds` — tests of a single node.
* `Selector.search`, `Chain.search`, `Query.search` — what is found from a slot.
-/

namespace TreeQuery

variable {ν : Type}

/-! ### Moves and positions -/

/-- The nodes that a combinator leads to from a slot. A list of slots acts as the parent of its
nodes; **a transparent child is replaced by its own children**. -/
def Tree.reached (t : Tree ν) : Combinator → Slot ν → List ν
  | .child, .list items => Slot.nodesOfAll items
  | .child, .node n =>
    (t.childNodes n).flatMap fun c => if t.isTransparent c then t.childNodes c else [c]
  | .nextSibling, .node n => (Slot.nodesOfAll (t.siblings n)).take 1
  | .laterSibling, .node n => Slot.nodesOfAll (t.siblings n)
  | _, _ => []

/-- The nodes that a position keeps. -/
def Position.keep : Option Position → List ν → List ν
  | some .first, found => found.take 1
  | some .last, found => found.getLast?.toList
  | none, found => found

/-! ### Tests and searches -/

mutual

/-- Whether a slot is equal to a value. **A pattern has no equality**: where one is met, the test
fails. -/
def Value.isEqual (t : Tree ν) (base : ν) : Value → Slot ν → Except MatchError Bool
  | .pattern value, _ => .error (.invalidOperator .equal (.pattern value))
  | .array values, slot =>
    match Tree.elements? slot (t.reduce slot) with
    | some items =>
      if items.length = values.length then Value.areEqual t base values items else .ok false
    | none => .ok false
  | .selector value, slot =>
    match slot with
    | .node n => value.holds t base n
    | _ => .ok false
  | value, slot => .ok (value.isScalarEqual t base slot)
termination_by structural value => value

/-- Whether slots are equal to values, one by one. -/
def Value.areEqual (t : Tree ν) (base : ν) :
    List Value → List (Slot ν) → Except MatchError Bool
  | value :: values, item :: items => do
    if ← value.isEqual t base item then Value.areEqual t base values items else return false
  | _, _ => .ok true
termination_by structural values => values

/-- Whether a slot differs from a value. **An array is compared element by element**: one that
differs is enough, and a pattern among the elements before it fails the test. -/
def Value.differs (t : Tree ν) (base : ν) : Value → Slot ν → Except MatchError Bool
  | .pattern value, _ => .error (.invalidOperator .notEqual (.pattern value))
  | .array values, slot =>
    match Tree.elements? slot (t.reduce slot) with
    | some items =>
      if items.length = values.length then Value.someDiffers t base values items else .ok true
    | none => .ok true
  | .selector value, slot =>
    match slot with
    | .node n => return !(← value.holds t base n)
    | _ => .ok true
  | value, slot => .ok !value.isScalarEqual t base slot
termination_by structural value => value

/-- Whether one of several slots differs from the value at its place. -/
def Value.someDiffers (t : Tree ν) (base : ν) :
    List Value → List (Slot ν) → Except MatchError Bool
  | value :: values, item :: items => do
    if ← value.differs t base item then return true else Value.someDiffers t base values items
  | _, _ => .ok false
termination_by structural values => values

/-- Whether a slot is equal to one of several values. -/
def Value.isEqualToAny (t : Tree ν) (base : ν) :
    List Value → Slot ν → Except MatchError Bool
  | [], _ => .ok false
  | value :: values, slot => do
    if ← value.isEqual t base slot then return true else Value.isEqualToAny t base values slot
termination_by structural values => values

/-- Whether a slot differs from each of several values. -/
def Value.differsFromAll (t : Tree ν) (base : ν) :
    List Value → Slot ν → Except MatchError Bool
  | [], _ => .ok true
  | value :: values, slot => do
    if ← value.differs t base slot then Value.differsFromAll t base values slot
    else return false
termination_by structural values => values

/-- Whether a slot is equal to an element of an array. -/
def Value.isMember (t : Tree ν) (base : ν) : Value → Slot ν → Except MatchError Bool
  | .array values, slot => Value.isEqualToAny t base values slot
  | _, _ => .ok false
termination_by structural value => value

/-- Whether a slot differs from every element of an array. -/
def Value.isNoMember (t : Tree ν) (base : ν) : Value → Slot ν → Except MatchError Bool
  | .array values, slot => Value.differsFromAll t base values slot
  | _, _ => .ok false
termination_by structural value => value

/-- Whether an attribute holds of a node. Templates are filled in from `base`. -/
def Attribute.holds (t : Tree ν) (base : ν) : Attribute → ν → Except MatchError Bool
  | ⟨key, operator, value⟩, n =>
    value.compareBy t base (fun slot => value.isEqual t base slot)
      (fun slot => value.differs t base slot) (fun slot => value.isMember t base slot)
      (fun slot => value.isNoMember t base slot) operator (t.resolve n key)
termination_by structural attributes => attributes

/-- Whether all of several attributes hold of a node. -/
def Attribute.allHold (t : Tree ν) (base : ν) : List Attribute → ν → Except MatchError Bool
  | [], _ => .ok true
  | a :: as, n => do if ← a.holds t base n then Attribute.allHold t base as n else return false
termination_by structural attributes => attributes

/-- Whether a node has the kind and attributes asked for. -/
def KindTest.holds (t : Tree ν) (base : ν) : KindTest → ν → Except MatchError Bool
  | ⟨kind, attributes⟩, n =>
    if t.kind n = kind then Attribute.allHold t base attributes n else .ok false
termination_by structural test => test

/-- Whether something, or nothing, is found from a node. -/
def PseudoTest.holds (t : Tree ν) : PseudoTest → ν → Except MatchError Bool
  | ⟨pseudoClass, query⟩, n => do
    let found ← Chain.searchAll t {} query (.node n)
    return found.isEmpty == (pseudoClass == .hasNot)
termination_by structural test => test

/-- Whether a node passes the tests of a selector. -/
def Selector.holds (t : Tree ν) (base : ν) : Selector → ν → Except MatchError Bool
  | ⟨_, _, _, kindTest, pseudoTest, _⟩, n => do
    let kindHolds ←
      match kindTest with
      | some test => test.holds t base n
      | none => .ok true
    if kindHolds then
      match pseudoTest with
      | some test => test.holds t n
      | none => .ok true
    else return false
termination_by structural selector => selector

/-- What a selector finds from a slot. -/
def Selector.search (t : Tree ν) (options : Options) :
    Selector → Slot ν → Except MatchError (List ν)
  | ⟨_, some combinator, some next, _, _, _⟩, slot => do
    return Position.keep next.position
      (← Fallible.filter (fun n => next.holds t n n) (t.reached combinator slot))
  | ⟨_, some _, none, _, _, _⟩, _ => .ok []
  | ⟨some path, none, some next, _, _, _⟩, slot =>
    Fallible.gather (fun n => next.search t options (t.resolve n path)) slot.nodes
  | ⟨some _, none, none, _, _, _⟩, _ => .ok []
  | ⟨none, none, _, kindTest, pseudoTest, position⟩, slot =>
    let pseudoHolds := fun n =>
      match pseudoTest with
      | some test => test.holds t n
      | none => .ok true
    let found : ν → Except MatchError (List ν) :=
      match kindTest with
      | some test =>
        t.search options fun n => do if ← test.holds t n n then pseudoHolds n else return false
      | none => fun n => if options.includingSelf then Fallible.filter pseudoHolds [n] else .ok []
    Fallible.gather (fun n => return Position.keep position (← found n)) slot.nodes
termination_by structural selector => selector

/-- What a chain finds from a slot. -/
def Chain.search (t : Tree ν) (options : Options) : Chain → Slot ν → Except MatchError (List ν)
  | .last selector, slot => selector.search t options slot
  | .link selector rest, slot => do
    Fallible.gather (fun n => rest.search t options (.node n)) (← selector.search t options slot)
termination_by structural chain => chain

/-- What several chains find from a slot, one after the other. -/
def Chain.searchAll (t : Tree ν) (options : Options) :
    List Chain → Slot ν → Except MatchError (List ν)
  | [], _ => .ok []
  | chain :: chains, slot => do
    let found ← chain.search t options slot
    let others ← Chain.searchAll t options chains slot
    return found ++ others
termination_by structural chains => chains

end

/-! ### Whole values and queries -/

/-- Whether a slot compares with a value as an operator says. Templates are filled in from
`base`. -/
def Value.holds (t : Tree ν) (base : ν) (value : Value) (operator : Operator) (slot : Slot ν) :
    Except MatchError Bool :=
  value.compareBy t base (value.isEqual t base) (value.differs t base) (value.isMember t base)
    (value.isNoMember t base) operator slot

/-- What a query finds from a slot. -/
def Query.search (t : Tree ν) (options : Options) (query : Query) (slot : Slot ν) :
    Except MatchError (List ν) :=
  Chain.searchAll t options query slot

/-- Whether a selector finds anything at or below a node. -/
def Selector.occursAt (t : Tree ν) (selector : Selector) (n : ν) : Except MatchError Bool :=
  return !(← selector.search t {} (.node n)).isEmpty

/-- Whether a chain finds anything at or below a node. -/
def Chain.occursAt (t : Tree ν) (chain : Chain) (n : ν) : Except MatchError Bool :=
  return !(← chain.search t {} (.node n)).isEmpty

/-- Whether a query finds anything at or below a node. -/
def Query.occursAt (t : Tree ν) (query : Query) (n : ν) : Except MatchError Bool :=
  return !(← query.search t {} (.node n)).isEmpty

/-- An attribute holds when the slot that its key leads to compares with its value as it demands. -/
theorem Attribute.holds_eq (t : Tree ν) (base : ν) (a : Attribute) (n : ν) :
    a.holds t base n = a.value.holds t base a.operator (t.resolve n a.key) := by
  cases a
  rfl

/-- Attributes are tested from left to right, no further than to the first that does not hold. -/
theorem Attribute.allHold_eq_all (t : Tree ν) (base : ν) (as : List Attribute) (n : ν) :
    Attribute.allHold t base as n = Fallible.all (fun a => a.holds t base n) as := by
  induction as with
  | nil => rfl
  | cons a as ih => rw [Attribute.allHold, ih, Fallible.all]

/-- Membership compares with the elements from left to right, no further than to the first that is
equal. -/
theorem Value.isEqualToAny_eq_any (t : Tree ν) (base : ν) (values : List Value) (slot : Slot ν) :
    Value.isEqualToAny t base values slot =
      Fallible.any (fun value => value.isEqual t base slot) values := by
  induction values with
  | nil => rfl
  | cons value values ih => rw [Value.isEqualToAny, ih, Fallible.any]

/-- Negated membership compares with the elements from left to right, no further than to the first
that is equal. -/
theorem Value.differsFromAll_eq_all (t : Tree ν) (base : ν) (values : List Value)
    (slot : Slot ν) :
    Value.differsFromAll t base values slot =
      Fallible.all (fun value => value.differs t base slot) values := by
  induction values with
  | nil => rfl
  | cons value values ih => rw [Value.differsFromAll, ih, Fallible.all]

/-- A query finds what its alternatives find, one after the other. -/
theorem Query.search_eq_gather (t : Tree ν) (options : Options) (query : Query) (slot : Slot ν) :
    query.search t options slot =
      Fallible.gather (fun chain => chain.search t options slot) query := by
  induction query with
  | nil => rfl
  | cons chain chains ih => exact congrArg (fun others => do
      let found ← chain.search t options slot
      let others ← others
      return found ++ others) ih

end TreeQuery
