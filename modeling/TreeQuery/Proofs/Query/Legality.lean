import TreeQuery.Proofs.Query.Opposites
import TreeQuery.Proofs.Query.Searching
import TreeQuery.Proofs.Query.Throughout

/-!
# Legal queries

Whether a query asks for a comparison that makes no sense is said by the query alone: every
attribute has an operator that its value admits, and no array holds a pattern, since arrays are
compared element by element and a pattern has no equality. **Such a query never fails**, on whatever
tree and from whatever slot it is run.

Running a query goes from an operator to others: an inclusion and a membership ask for equality, and
a selector used as a value goes on with attributes of its own. The induction follows the query, and
its invariant is that a value with an equality is tested without failing.

## Main definitions and results

* `Query.isLegal` — the condition.
* `Value.Testable` — the tests of equality and membership of a value do not fail.
* `Value.holds_succeeds`: where they do not, no operator that the value admits fails.
* `legalCases`: **nothing that is legal fails**, case by case.
-/

namespace TreeQuery

open Fallible

variable {ν : Type} {t : Tree ν}

/-! ### Legality -/

/-- Whether a value is a pattern. -/
def Value.isPattern : Value → Bool
  | .pattern _ => true
  | _ => false

mutual

/-- Whether a value can be tested for equality: it is no pattern and no array that holds one. -/
def Value.hasEquality : Value → Bool
  | .pattern _ => false
  | .array items => Value.haveEquality items
  | _ => true
termination_by structural value => value

/-- Whether all of several values can be tested for equality. -/
def Value.haveEquality : List Value → Bool
  | [] => true
  | value :: rest => value.hasEquality && Value.haveEquality rest
termination_by structural values => values

end

/-- What legality demands of the parts of a query. -/
def legality : Demands where
  onAttribute a :=
    decide (a.operator ∈ a.value.operators) && (a.value.isPattern || a.value.hasEquality)
  onSelector _ := true
  onPseudoTest _ := true

/-- Whether every attribute of a query, at any depth, has an operator that its value admits, and no
array holds a pattern. -/
def Query.isLegal (query : Query) : Bool := query.meetsThroughout legality

/-- Values can be tested for equality if each of them can. -/
theorem Value.haveEquality_iff {values : List Value} :
    Value.haveEquality values = true ↔ ∀ value ∈ values, value.hasEquality = true := by
  induction values with
  | nil => simp [haveEquality]
  | cons value values ih => rw [haveEquality, Bool.and_eq_true, ih, List.forall_mem_cons]

/-! ### Values -/

/-- The tests of equality and membership that a value takes part in do not fail. -/
structure Value.Testable (t : Tree ν) (value : Value) : Prop where
  /-- Equality. -/
  isEqual : ∀ base slot, Succeeds (value.isEqual t base slot)
  /-- Membership in an array. -/
  isMember : ∀ base slot, Succeeds (value.isMember t base slot)
  /-- Absence from an array. -/
  isNoMember : ∀ base slot, Succeeds (value.isNoMember t base slot)

/-- Where the test of equality does not fail, that of difference does not. -/
theorem Value.differs_succeeds {value : Value} {base : ν} {slot : Slot ν}
    (h : Succeeds (value.isEqual t base slot)) : Succeeds (value.differs t base slot) := by
  obtain ⟨equal, hequal⟩ := h
  exact ⟨_, differs_eq_ok hequal⟩

/-- Values are compared with slots one by one without failing if each of them is testable. -/
theorem Value.areEqual_succeeds {values : List Value}
    (h : ∀ value ∈ values, value.Testable t) (base : ν) (items : List (Slot ν)) :
    Succeeds (Value.areEqual t base values items) := by
  induction values generalizing items with
  | nil => exact succeeds_ok _
  | cons value values ih =>
    rw [List.forall_mem_cons] at h
    cases items with
    | nil => exact succeeds_ok _
    | cons item items =>
      rw [areEqual]
      refine (h.1.isEqual base item).bind fun equal => ?_
      split
      · exact ih h.2 items
      · exact succeeds_ok _

/-- An array is tested without failing if its elements are. -/
theorem Value.testable_array {items : List Value} (h : ∀ value ∈ items, value.Testable t) :
    (Value.array items).Testable t where
  isEqual base slot := by
    rw [Value.isEqual]
    split
    · split
      · exact areEqual_succeeds h base _
      · exact succeeds_ok _
    · exact succeeds_ok _
  isMember base slot := by
    rw [Value.isMember, isEqualToAny_eq_any]
    exact any_succeeds fun value hvalue => (h value hvalue).isEqual base slot
  isNoMember base slot := by
    rw [Value.isNoMember, differsFromAll_eq_all]
    exact all_succeeds fun value hvalue => differs_succeeds ((h value hvalue).isEqual base slot)

/-- A selector is tested without failing if it holds or not. -/
theorem Value.testable_selector {selector : Selector}
    (h : ∀ base n, Succeeds (selector.holds t base n)) : (Value.selector selector).Testable t where
  isEqual base slot := by
    cases slot with
    | node n => exact h base n
    | _ => exact succeeds_ok _
  isMember _ _ := succeeds_ok _
  isNoMember _ _ := succeeds_ok _

/-- **No operator that a value admits fails**, if the value is tested without failing. A pattern is
not tested but matched, which never fails. -/
theorem Value.holds_succeeds {value : Value} {operator : Operator}
    (hadmitted : operator ∈ value.operators) (h : value.isPattern = false → value.Testable t)
    (base : ν) (slot : Slot ν) : Succeeds (value.holds t base operator slot) := by
  unfold holds compareBy
  rw [if_pos hadmitted]
  cases hpattern : value.isPattern with
  | true =>
    cases value with
    | pattern p =>
      have hoperator : operator = .like ∨ operator = .unlike := by
        simpa [operators, Operator.ofPattern] using hadmitted
      rcases hoperator with rfl | rfl <;> exact succeeds_ok _
    | _ => cases hpattern
  | false =>
    have htest := h hpattern
    cases operator with
    | equal => exact htest.isEqual base slot
    | notEqual => exact differs_succeeds (htest.isEqual base slot)
    | memberOf => exact all_succeeds fun item _ => htest.isMember base item
    | notMemberOf => exact all_succeeds fun item _ => htest.isNoMember base item
    | includes =>
      dsimp only
      split
      · exact any_succeeds fun item _ => htest.isEqual base item
      · exact succeeds_ok _
    | notIncludes =>
      dsimp only
      split
      · exact (any_succeeds fun item _ => htest.isEqual base item).bind fun _ => succeeds_ok _
      · exact succeeds_ok _
    | _ => exact succeeds_ok _

/-! ### Selectors -/

/-- A walk whose tests do not fail does not fail. -/
theorem Tree.search_succeeds {test : ν → Except MatchError Bool} (h : ∀ n, Succeeds (test n))
    (options : Options) (n : ν) : Succeeds (t.search options test n) := by
  obtain ⟨passes, hpasses⟩ := exists_results (p := fun _ => True) fun n _ => h n
  exact ⟨_, t.search_eq_matching (fun n => hpasses n trivial) n⟩

/-- Neither testing a node nor searching with a selector fails. -/
structure Selector.Runs (t : Tree ν) (selector : Selector) : Prop where
  /-- Testing a node. -/
  holds : ∀ base n, Succeeds (selector.holds t base n)
  /-- Searching. -/
  search : ∀ options slot, Succeeds (selector.search t options slot)

/-- A selector is tested without failing if its attributes and the query of its pseudo class do not
fail. -/
theorem Selector.holds_succeeds {selector : Selector}
    (hattributes : ∀ test ∈ selector.kindTest, ∀ base n,
      Succeeds (Attribute.allHold t base test.attributes n))
    (hquery : ∀ test ∈ selector.pseudoTest, ∀ options slot,
      Succeeds (Chain.searchAll t options test.query slot)) (base n : ν) :
    Succeeds (selector.holds t base n) := by
  rw [Selector.holds_eq]
  refine Succeeds.bind ?_ fun passes => ?_
  · cases hkind : selector.kindTest with
    | none => exact succeeds_ok _
    | some test =>
      obtain ⟨kind, attributes⟩ := test
      dsimp only [Option.elim]
      rw [KindTest.holds]
      split
      · exact hattributes _ hkind base n
      · exact succeeds_ok _
  · cases passes with
    | false => exact succeeds_ok _
    | true =>
      cases hpseudo : selector.pseudoTest with
      | none => exact succeeds_ok _
      | some test =>
        obtain ⟨pseudoClass, query⟩ := test
        exact (hquery _ hpseudo {} (.node n)).bind fun _ => succeeds_ok _

/-- A selector that is tested without failing searches without failing, if the one behind its move
does. -/
theorem Selector.search_succeeds {selector : Selector}
    (hholds : ∀ base n, Succeeds (selector.holds t base n))
    (hnext : ∀ next ∈ selector.next, next.Runs t) (options : Options) (slot : Slot ν) :
    Succeeds (selector.search t options slot) := by
  obtain ⟨scope, combinator, next, kindTest, pseudoTest, position⟩ := selector
  rcases combinator with _ | combinator
  · rcases scope with _ | path
    · rw [Selector.search_eq rfl rfl]
      refine gather_succeeds fun m _ => Succeeds.bind ?_ fun _ => succeeds_ok _
      unfold passing
      split
      · exact Tree.search_succeeds (fun n => hholds n n) options m
      · split
        · exact filter_succeeds fun n _ => hholds n n
        · exact succeeds_ok _
    · cases next with
      | none => exact succeeds_ok _
      | some next =>
        rw [Selector.search]
        exact gather_succeeds fun n _ => (hnext _ rfl).search options _
  · cases next with
    | none => exact succeeds_ok _
    | some next =>
      rw [Selector.search]
      exact (filter_succeeds fun n _ => (hnext _ rfl).holds n n).bind fun _ => succeeds_ok _

/-! ### Queries -/

/-- **Nothing that is legal fails.** -/
theorem legalCases (t : Tree ν) : QueryCases
    (fun value => value.hasEquality = true → value.meetsThroughout legality = true →
      value.Testable t)
    (fun attributes => Attribute.allMeetThroughout legality attributes = true →
      ∀ base n, Succeeds (Attribute.allHold t base attributes n))
    (fun selector => selector.meetsThroughout legality = true → selector.Runs t)
    (fun chain => chain.meetsThroughout legality = true →
      ∀ options slot, Succeeds (chain.search t options slot))
    (fun query => Chain.allMeetThroughout legality query = true →
      ∀ options slot, Succeeds (Chain.searchAll t options query slot)) where
  scalar value harray hselector hequality _ := by
    cases value with
    | array items => exact absurd rfl (harray items)
    | selector s => exact absurd rfl (hselector s)
    | pattern p => cases hequality
    | _ => exact ⟨fun _ _ => succeeds_ok _, fun _ _ => succeeds_ok _, fun _ _ => succeeds_ok _⟩
  array items ih hequality hmeets :=
    Value.testable_array fun value hvalue => ih value hvalue
      (Value.haveEquality_iff.mp hequality value hvalue)
      (Value.allMeetThroughout_iff.mp hmeets value hvalue)
  selectorValue selector ih _ hmeets := Value.testable_selector (ih hmeets).holds
  noAttribute _ _ _ := succeeds_ok _
  moreAttributes key operator value rest ih ih' hmeets base n := by
    rw [Attribute.allMeetThroughout, Bool.and_eq_true, Bool.and_eq_true] at hmeets
    obtain ⟨⟨hlegal, hvalue⟩, hrest⟩ := hmeets
    obtain ⟨hadmitted, hequality⟩ := Bool.and_eq_true_iff.mp hlegal
    rw [Attribute.allHold, Attribute.holds_eq]
    refine Succeeds.bind ?_ fun passes => ?_
    · refine Value.holds_succeeds (of_decide_eq_true hadmitted) (fun hpattern => ?_) base _
      refine ih ?_ hvalue
      simpa [hpattern] using hequality
    · split
      · exact ih' hrest base n
      · exact succeeds_ok _
  selector selector hnext hattributes hquery hmeets := by
    obtain ⟨-, hn, hk, hp⟩ := Selector.meetsThroughout_iff.mp hmeets
    have hholds := Selector.holds_succeeds
      (fun test htest => hattributes test htest (hk test htest))
      (fun test htest => hquery test htest (hp test htest).2)
    exact ⟨hholds, Selector.search_succeeds hholds fun next h => hnext next h (hn next h)⟩
  last selector ih hmeets := (ih hmeets).search
  link selector rest ih ih' hmeets options slot := by
    obtain ⟨hselector, hrest⟩ := Bool.and_eq_true_iff.mp hmeets
    rw [Chain.search]
    exact ((ih hselector).search options slot).bind fun found =>
      gather_succeeds fun n _ => ih' hrest options (.node n)
  noChain _ _ _ := succeeds_ok _
  moreChains chain rest ih ih' hmeets options slot := by
    obtain ⟨hchain, hrest⟩ := Bool.and_eq_true_iff.mp hmeets
    rw [Chain.searchAll]
    exact (ih hchain options slot).bind fun found =>
      (ih' hrest options slot).bind fun others => succeeds_ok _

/-- A legal query finds its nodes without failing. -/
theorem Query.search_succeeds {query : Query} (h : query.isLegal = true) (t : Tree ν)
    (options : Options) (slot : Slot ν) : Succeeds (query.search t options slot) :=
  (legalCases t).ofQuery query h options slot

end TreeQuery
