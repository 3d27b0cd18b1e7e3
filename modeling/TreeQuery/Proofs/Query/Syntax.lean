import TreeQuery.Query.Basic

/-!
# Induction over queries

Values, attributes, selectors, chains and queries hold one another. Two things are done once here
for all of them: the induction that follows their constructors, and the walk that makes the same
demands on every attribute, selector and pseudo class at every depth.

## Main definitions and results

* `QueryCases` — what an induction over queries has to show, case by case.
* `QueryCases.ofQuery` and its companions — **what the cases show holds of everything**.
* `Demands` — demands on the parts of a query; `Selector.meets` and its companions — meeting
  them at every depth.
-/

namespace TreeQuery

/-! ### Induction -/

/-- The cases of an induction over queries. A scalar is any value but an array and a selector. -/
structure QueryCases (onValue : Value → Prop) (onAttributes : List Attribute → Prop)
    (onSelector : Selector → Prop) (onChain : Chain → Prop) (onQuery : Query → Prop) : Prop where
  /-- Scalars. -/
  scalar : ∀ value : Value, (∀ items, value ≠ .array items) →
    (∀ selector, value ≠ .selector selector) → onValue value
  /-- Arrays, from their elements. -/
  array : ∀ items, (∀ value ∈ items, onValue value) → onValue (.array items)
  /-- Selectors as values. -/
  selectorValue : ∀ selector, onSelector selector → onValue (.selector selector)
  /-- No attributes. -/
  noAttribute : onAttributes []
  /-- One more attribute. -/
  moreAttributes : ∀ key operator value rest, onValue value → onAttributes rest →
    onAttributes (⟨key, operator, value⟩ :: rest)
  /-- Selectors, from the selector behind the move and from the two tests. -/
  selector : ∀ selector : Selector, (∀ next ∈ selector.next, onSelector next) →
    (∀ test ∈ selector.kindTest, onAttributes test.attributes) →
    (∀ test ∈ selector.pseudoTest, onQuery test.query) → onSelector selector
  /-- The end of a chain. -/
  last : ∀ selector, onSelector selector → onChain (.last selector)
  /-- A link of a chain. -/
  link : ∀ selector rest, onSelector selector → onChain rest → onChain (.link selector rest)
  /-- No alternative. -/
  noChain : onQuery []
  /-- One more alternative. -/
  moreChains : ∀ chain rest, onChain chain → onQuery rest → onQuery (chain :: rest)

section

variable {onValue : Value → Prop} {onAttributes : List Attribute → Prop}
  {onSelector : Selector → Prop} {onChain : Chain → Prop} {onQuery : Query → Prop}

mutual

/-- **What holds in every case holds of every value**, and with it of every part of a query. The
induction is over the six types at once. -/
theorem QueryCases.ofValue
    (cases : QueryCases onValue onAttributes onSelector onChain onQuery) : ∀ value, onValue value
  | .array items => cases.array items (QueryCases.ofValues cases items)
  | .selector selector => cases.selectorValue selector (QueryCases.ofSelector cases selector)
  | .text _ | .template _ | .identifier _ | .symbol _ | .integer _ | .float _ | .boolean _ | .nil
  | .pattern _ => cases.scalar _ (by simp) (by simp)
termination_by structural value => value

/-- What holds in every case holds of each of several values. -/
theorem QueryCases.ofValues
    (cases : QueryCases onValue onAttributes onSelector onChain onQuery) :
    ∀ values : List Value, ∀ value ∈ values, onValue value
  | [], _, hmem => absurd hmem List.not_mem_nil
  | first :: rest, value, hmem => by
    rcases List.mem_cons.mp hmem with hfirst | hrest
    · rw [hfirst]
      exact QueryCases.ofValue cases first
    · exact QueryCases.ofValues cases rest value hrest
termination_by structural values => values

/-- What holds in every case holds of all attributes in a row. -/
theorem QueryCases.ofAttributes
    (cases : QueryCases onValue onAttributes onSelector onChain onQuery) :
    ∀ attributes, onAttributes attributes
  | [] => cases.noAttribute
  | ⟨key, operator, value⟩ :: rest =>
    cases.moreAttributes key operator value rest (QueryCases.ofValue cases value)
      (QueryCases.ofAttributes cases rest)
termination_by structural attributes => attributes

/-- What holds in every case holds of every selector. -/
theorem QueryCases.ofSelector
    (cases : QueryCases onValue onAttributes onSelector onChain onQuery) :
    ∀ selector, onSelector selector
  | ⟨scope, combinator, next, kindTest, pseudoTest, position⟩ => by
    refine cases.selector _ ?_ ?_ ?_
    · cases next with
      | none => rintro next ⟨⟩
      | some next =>
        rintro _ ⟨⟩
        exact QueryCases.ofSelector cases next
    · cases kindTest with
      | none => rintro test ⟨⟩
      | some test =>
        obtain ⟨kind, attributes⟩ := test
        rintro _ ⟨⟩
        exact QueryCases.ofAttributes cases attributes
    · cases pseudoTest with
      | none => rintro test ⟨⟩
      | some test =>
        obtain ⟨pseudoClass, query⟩ := test
        rintro _ ⟨⟩
        exact QueryCases.ofQuery cases query
termination_by structural selector => selector

/-- What holds in every case holds of every chain. -/
theorem QueryCases.ofChain
    (cases : QueryCases onValue onAttributes onSelector onChain onQuery) : ∀ chain, onChain chain
  | .last selector => cases.last selector (QueryCases.ofSelector cases selector)
  | .link selector rest =>
    cases.link selector rest (QueryCases.ofSelector cases selector) (QueryCases.ofChain cases rest)
termination_by structural chain => chain

/-- What holds in every case holds of every query. -/
theorem QueryCases.ofQuery
    (cases : QueryCases onValue onAttributes onSelector onChain onQuery) :
    ∀ query : List Chain, onQuery query
  | [] => cases.noChain
  | chain :: rest =>
    cases.moreChains chain rest (QueryCases.ofChain cases chain) (QueryCases.ofQuery cases rest)
termination_by structural query => query

end

end

/-! ### Demands on every part -/

/-- Demands on the parts of a query, each on the part itself and not on what it holds. -/
structure Demands where
  /-- What every attribute has to meet. -/
  onAttribute : Attribute → Bool
  /-- What every selector has to meet. -/
  onSelector : Selector → Bool
  /-- What every test by what can be found below has to meet. -/
  onPseudoTest : PseudoTest → Bool

mutual

/-- Whether what a value holds meets the demands. -/
def Value.meets (demands : Demands) : Value → Bool
  | .selector selector => selector.meets demands
  | _ => true

/-- Whether attributes and what they hold meet the demands. -/
def Attribute.allMeet (demands : Demands) : List Attribute → Bool
  | [] => true
  | ⟨key, operator, value⟩ :: rest =>
    demands.onAttribute ⟨key, operator, value⟩ && value.meets demands &&
      Attribute.allMeet demands rest

/-- Whether a test by kind and what it holds meet the demands. -/
def KindTest.meets (demands : Demands) : KindTest → Bool
  | ⟨_, attributes⟩ => Attribute.allMeet demands attributes

/-- Whether a test by what can be found below and what it holds meet the demands. -/
def PseudoTest.meets (demands : Demands) : PseudoTest → Bool
  | ⟨pseudoClass, query⟩ =>
    demands.onPseudoTest ⟨pseudoClass, query⟩ && Chain.allMeet demands query

/-- Whether a selector and what it holds meet the demands. -/
def Selector.meets (demands : Demands) : Selector → Bool
  | ⟨scope, combinator, next, kindTest, pseudoTest, position⟩ =>
    demands.onSelector ⟨scope, combinator, next, kindTest, pseudoTest, position⟩ &&
    (match next with
      | some selector => selector.meets demands
      | none => true) &&
    (match kindTest with
      | some test => test.meets demands
      | none => true) &&
    (match pseudoTest with
      | some test => test.meets demands
      | none => true)

/-- Whether the selectors of a chain meet the demands. -/
def Chain.meets (demands : Demands) : Chain → Bool
  | .last selector => selector.meets demands
  | .link selector rest => selector.meets demands && rest.meets demands

/-- Whether the alternatives of a query meet the demands. -/
def Chain.allMeet (demands : Demands) : List Chain → Bool
  | [] => true
  | chain :: rest => chain.meets demands && Chain.allMeet demands rest

end

/-- A selector meets demands when it does so itself, and the selector behind its move and its two
tests do. -/
theorem Selector.meets_iff {demands : Demands} {selector : Selector} :
    selector.meets demands = true ↔
      demands.onSelector selector = true ∧
      (∀ next ∈ selector.next, next.meets demands = true) ∧
      (∀ test ∈ selector.kindTest, Attribute.allMeet demands test.attributes = true) ∧
      (∀ test ∈ selector.pseudoTest,
        demands.onPseudoTest test = true ∧ Chain.allMeet demands test.query = true) := by
  obtain ⟨scope, combinator, next, kindTest, pseudoTest, position⟩ := selector
  rw [meets.eq_def]
  simp only [Bool.and_eq_true, and_assoc]
  refine and_congr_right fun _ => ?_
  cases next <;> rcases kindTest with _ | ⟨kind, attributes⟩ <;>
    rcases pseudoTest with _ | ⟨pseudoClass, query⟩ <;>
    simp [KindTest.meets, PseudoTest.meets]

end TreeQuery
