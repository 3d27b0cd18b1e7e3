import TreeQuery.Proofs.Agreement
import TreeQuery.Proofs.Query.Throughout

/-!
# Searches in trees that agree

A search that starts among nodes on which two trees agree, and makes only moves along which they
agree,
**has the same result in both trees, be it a list or a failure**. Templates, pseudo classes,
selectors as values and arrays are no exception: what they look at is reached by key paths and moves
as well.

The proof is an induction over queries. A value is tested alike in both trees, a selector tests and
searches alike, and a chain needs that what its links find stays among those nodes. A rule set makes
no moves.

## Main definitions and results

* `Query.movesAlong` — a query makes moves of a set of combinators only, at any depth.
* `Query.search_eq_of_agreeOn`: **queries with such moves find the same.**
* `RuleSet.search_eq_of_agreeOn`: **so does every rule set.**
-/

namespace TreeQuery

open Fallible Slot

variable {ν : Type} {t t' : Tree ν} {inside : ν → Prop}

/-! ### Values -/

namespace Value

variable (h : t.AgreeOn t' inside)

include h

section Texts

variable {slot : Slot ν} (hslot : slot.IsInside inside)

include hslot

/-- The text that is compared with a value is the same. -/
theorem actualText?_eq_of_agreeOn (value : Value) :
    value.actualText? t slot = value.actualText? t' slot := by
  have htext := h.text_eq slot hslot
  have hreduced := h.text_eq _ (h.isInside_reduce hslot)
  cases value with
  | identifier name =>
    cases slot with
    | list items => rfl
    | _ => exact congrArg some htext
  | _ =>
    simp only [actualText?, ← h.reduce_eq hslot]
    cases hslot : t.reduce slot <;> rw [hslot] at hreduced <;> simp only [hreduced]

/-- Comparisons of texts have the same result. -/
theorem compareTexts_eq_of_agreeOn {base : ν} (hbase : inside base) (value : Value)
    (holds : List Char → List Char → Bool) :
    value.compareTexts t base holds slot = value.compareTexts t' base holds slot := by
  have hexpected : value.expectedText t base = value.expectedText t' base := by
    cases value with
    | template template => exact h.expandTemplate_eq template hbase
    | _ => rfl
  rw [compareTexts, compareTexts, actualText?_eq_of_agreeOn h hslot, hexpected]

/-- Comparisons of numbers have the same result. -/
theorem compareNumbers_eq_of_agreeOn (value : Value) (holds : Number → Number → Bool) :
    value.compareNumbers t holds slot = value.compareNumbers t' holds slot := by
  rw [compareNumbers, compareNumbers, h.reduce_eq hslot]

/-- Whether a slot is a symbol is told alike. -/
theorem isSymbol_eq_of_agreeOn (name : String) : isSymbol t name slot = isSymbol t' name slot := by
  have hinside := h.isInside_reduce hslot
  rw [isSymbol, isSymbol, ← h.reduce_eq hslot]
  cases hreduced : t.reduce slot with
  | node n =>
    rw [hreduced] at hinside
    simp only [h.source n (isInside_node.mp hinside)]
  | _ => rfl

/-- A pattern matches in both trees or in neither. -/
theorem isLike_eq_of_agreeOn (value : Value) : value.isLike t slot = value.isLike t' slot := by
  have htext := h.text_eq slot hslot
  cases value with
  | pattern p =>
    cases slot with
    | absent => rfl
    | _ => exact congrArg p.isMatch htext
  | _ => rfl

/-- Equality with a scalar has the same result. -/
theorem isScalarEqual_eq_of_agreeOn {base : ν} (hbase : inside base) (value : Value) :
    value.isScalarEqual t base slot = value.isScalarEqual t' base slot := by
  cases value with
  | text _ | template _ | identifier _ => exact compareTexts_eq_of_agreeOn h hslot hbase _ _
  | symbol name => exact isSymbol_eq_of_agreeOn h hslot name
  | integer _ | float _ => exact compareNumbers_eq_of_agreeOn h hslot _ _
  | boolean _ | nil => rw [isScalarEqual, isScalarEqual, h.reduce_eq hslot]
  | pattern _ | array _ | selector _ => rfl

end Texts

end Value

/-- The tests of equality and membership with a value have the same results in both trees, on slots
and with bases that are inside. -/
structure Value.TestedAlike (t t' : Tree ν) (inside : ν → Prop) (value : Value) : Prop where
  /-- Equality. -/
  isEqual : ∀ {base}, inside base → ∀ {slot : Slot ν}, slot.IsInside inside →
    value.isEqual t base slot = value.isEqual t' base slot
  /-- Difference. -/
  differs : ∀ {base}, inside base → ∀ {slot : Slot ν}, slot.IsInside inside →
    value.differs t base slot = value.differs t' base slot
  /-- Membership in an array. -/
  isMember : ∀ {base}, inside base → ∀ {slot : Slot ν}, slot.IsInside inside →
    value.isMember t base slot = value.isMember t' base slot
  /-- Absence from an array. -/
  isNoMember : ∀ {base}, inside base → ∀ {slot : Slot ν}, slot.IsInside inside →
    value.isNoMember t base slot = value.isNoMember t' base slot

namespace Value

variable (h : t.AgreeOn t' inside)

include h

/-- A value that is neither an array nor a selector is tested alike. -/
theorem testedAlike_scalar {value : Value} (harray : ∀ items, value ≠ .array items)
    (hselector : ∀ selector, value ≠ .selector selector) : value.TestedAlike t t' inside where
  isEqual hbase slot hslot := by
    have hequal := isScalarEqual_eq_of_agreeOn h hslot hbase value
    cases value with
    | array items => exact absurd rfl (harray items)
    | selector s => exact absurd rfl (hselector s)
    | pattern p => rfl
    | _ => exact congrArg Except.ok hequal
  differs hbase slot hslot := by
    have hequal := isScalarEqual_eq_of_agreeOn h hslot hbase value
    cases value with
    | array items => exact absurd rfl (harray items)
    | selector s => exact absurd rfl (hselector s)
    | pattern p => rfl
    | _ => exact congrArg (fun equal => Except.ok !equal) hequal
  isMember _ slot _ := by
    cases value with
    | array items => exact absurd rfl (harray items)
    | _ => rfl
  isNoMember _ slot _ := by
    cases value with
    | array items => exact absurd rfl (harray items)
    | _ => rfl

omit h in
/-- Comparing values with slots one by one has the same result if each of the values is tested
alike. -/
theorem areEqual_eq_of_testedAlike {values : List Value}
    (hvalues : ∀ value ∈ values, value.TestedAlike t t' inside) {base : ν} (hbase : inside base)
    {items : List (Slot ν)} (hitems : ∀ item ∈ items, item.IsInside inside) :
    areEqual t base values items = areEqual t' base values items ∧
      someDiffers t base values items = someDiffers t' base values items := by
  induction values generalizing items with
  | nil => exact ⟨rfl, rfl⟩
  | cons value values ih =>
    cases items with
    | nil => exact ⟨rfl, rfl⟩
    | cons item items =>
      obtain ⟨hvalue, hvalues⟩ := List.forall_mem_cons.mp hvalues
      obtain ⟨hitem, hitems⟩ := List.forall_mem_cons.mp hitems
      obtain ⟨hequal, hdiffers⟩ := ih hvalues hitems
      constructor
      · rw [areEqual, areEqual, hvalue.isEqual hbase hitem, hequal]
      · rw [someDiffers, someDiffers, hvalue.differs hbase hitem, hdiffers]

/-- An array is tested alike if its elements are. -/
theorem testedAlike_array {values : List Value}
    (hvalues : ∀ value ∈ values, value.TestedAlike t t' inside) :
    (array values).TestedAlike t t' inside where
  isEqual hbase slot hslot := by
    rw [isEqual, isEqual, ← h.elements?_eq hslot]
    cases hitems : Tree.elements? slot (t.reduce slot) with
    | none => rfl
    | some items =>
      have hinside := h.isInside_of_mem_elements hslot hitems
      simp only [(areEqual_eq_of_testedAlike hvalues hbase hinside).1]
  differs hbase slot hslot := by
    rw [differs, differs, ← h.elements?_eq hslot]
    cases hitems : Tree.elements? slot (t.reduce slot) with
    | none => rfl
    | some items =>
      have hinside := h.isInside_of_mem_elements hslot hitems
      simp only [(areEqual_eq_of_testedAlike hvalues hbase hinside).2]
  isMember hbase slot hslot := by
    rw [isMember, isMember, isEqualToAny_eq_any, isEqualToAny_eq_any]
    exact any_congr fun value hvalue => (hvalues value hvalue).isEqual hbase hslot
  isNoMember hbase slot hslot := by
    rw [isNoMember, isNoMember, differsFromAll_eq_all, differsFromAll_eq_all]
    exact all_congr fun value hvalue => (hvalues value hvalue).differs hbase hslot

omit h in
/-- A selector is tested alike as a value if it tests alike. -/
theorem testedAlike_selector {selector : Selector}
    (hholds : ∀ {base n}, inside base → inside n →
      selector.holds t base n = selector.holds t' base n) :
    (Value.selector selector).TestedAlike t t' inside where
  isEqual hbase slot hslot := by
    cases slot with
    | node n => exact hholds hbase (isInside_node.mp hslot)
    | _ => rfl
  differs hbase slot hslot := by
    cases slot with
    | node n =>
      rw [differs, differs, hholds hbase (isInside_node.mp hslot)]
    | _ => rfl
  isMember _ _ _ := rfl
  isNoMember _ _ _ := rfl

/-- **Every operator has the same result** with a value that is tested alike. -/
theorem holds_eq_of_agreeOn {value : Value} (hvalue : value.TestedAlike t t' inside) {base : ν}
    (hbase : inside base) {slot : Slot ν} (hslot : slot.IsInside inside) (operator : Operator) :
    value.holds t base operator slot = value.holds t' base operator slot := by
  have hmembers : ∀ item ∈ members slot, item.IsInside inside := by
    cases slot with
    | list items => exact isInside_list.mp hslot
    | _ => exact List.forall_mem_singleton.mpr hslot
  have hincludes : ∀ items, Tree.elements? slot (t.reduce slot) = some items →
      Fallible.any (value.isEqual t base) items = Fallible.any (value.isEqual t' base) items := by
    intro items hitems
    exact any_congr fun item hitem =>
      hvalue.isEqual hbase (h.isInside_of_mem_elements hslot hitems item hitem)
  unfold holds compareBy
  split
  · cases operator with
    | equal => exact hvalue.isEqual hbase hslot
    | notEqual => exact hvalue.differs hbase hslot
    | startsWith | endsWith | contains =>
      exact congrArg Except.ok (compareTexts_eq_of_agreeOn h hslot hbase value _)
    | greater | greaterOrEqual | less | lessOrEqual =>
      exact congrArg Except.ok (compareNumbers_eq_of_agreeOn h hslot value _)
    | like => exact congrArg Except.ok (isLike_eq_of_agreeOn h hslot value)
    | unlike => exact congrArg (fun like => Except.ok !like) (isLike_eq_of_agreeOn h hslot value)
    | memberOf => exact all_congr fun item hitem => hvalue.isMember hbase (hmembers item hitem)
    | notMemberOf => exact all_congr fun item hitem => hvalue.isNoMember hbase (hmembers item hitem)
    | includes | notIncludes =>
      dsimp only
      rw [← h.elements?_eq hslot]
      cases hitems : Tree.elements? slot (t.reduce slot) with
      | none => rfl
      | some items => simp only [hincludes items hitems]
  · rfl

end Value

/-! ### Selectors -/

/-- A selector tests nodes and searches with the same results in both trees. -/
structure Selector.RunsAlike (t t' : Tree ν) (inside : ν → Prop) (selector : Selector) : Prop where
  /-- Testing a node. -/
  holds : ∀ {base n}, inside base → inside n → selector.holds t base n = selector.holds t' base n
  /-- Searching. -/
  search : ∀ options {slot : Slot ν}, slot.IsInside inside →
    selector.search t options slot = selector.search t' options slot

namespace Selector

/-- A selector tests a node alike if its attributes and the query of its pseudo class are run
alike. -/
theorem holds_eq_of_agreeOn (h : t.AgreeOn t' inside) {selector : Selector}
    (hattributes : ∀ test ∈ selector.kindTest, ∀ {base n}, inside base → inside n →
      Attribute.allHold t base test.attributes n = Attribute.allHold t' base test.attributes n)
    (hquery : ∀ test ∈ selector.pseudoTest, ∀ options {slot : Slot ν}, slot.IsInside inside →
      Chain.searchAll t options test.query slot = Chain.searchAll t' options test.query slot)
    {base n : ν} (hbase : inside base) (hn : inside n) :
    selector.holds t base n = selector.holds t' base n := by
  have hkind : (selector.kindTest.elim (.ok true) fun test => test.holds t base n) =
      selector.kindTest.elim (.ok true) fun test => test.holds t' base n := by
    cases hkindTest : selector.kindTest with
    | none => rfl
    | some test =>
      obtain ⟨kind, attributes⟩ := test
      dsimp only [Option.elim]
      rw [KindTest.holds, KindTest.holds, h.kind n hn, hattributes _ hkindTest hbase hn]
  have hpseudo : (selector.pseudoTest.elim (.ok true) fun test => test.holds t n) =
      selector.pseudoTest.elim (.ok true) fun test => test.holds t' n := by
    cases hpseudoTest : selector.pseudoTest with
    | none => rfl
    | some test =>
      obtain ⟨pseudoClass, query⟩ := test
      dsimp only [Option.elim]
      rw [PseudoTest.holds, PseudoTest.holds, hquery _ hpseudoTest {} (isInside_node.mpr hn)]
  rw [holds_eq, holds_eq, hkind, hpseudo]

/-- The nodes below a starting node that pass are the same if each is tested alike. -/
theorem passing_eq_of_agreeOn (h : t.AgreeOn t' inside) {selector : Selector}
    (hholds : ∀ {base n}, inside base → inside n →
      selector.holds t base n = selector.holds t' base n) (options : Options) {m : ν}
    (hm : inside m) : selector.passing t options m = selector.passing t' options m := by
  have hself : filter (fun n => selector.holds t n n) [m] =
      filter (fun n => selector.holds t' n n) [m] :=
    filter_congr (List.forall_mem_singleton.mpr (hholds hm hm))
  rw [passing, passing, h.search_eq (fun n hn => hholds hn hn) options hm, hself]

/-- A selector that tests alike searches alike, if its move does and the selector behind it. -/
theorem search_eq_of_agreeOn (h : t.AgreeOn t' inside) {selector : Selector}
    (hholds : ∀ {base n}, inside base → inside n →
      selector.holds t base n = selector.holds t' base n)
    (hmove : ∀ combinator ∈ selector.combinator, t.AgreeAlong t' inside combinator)
    (hnext : ∀ next ∈ selector.next, next.RunsAlike t t' inside) (options : Options)
    {slot : Slot ν} (hslot : slot.IsInside inside) :
    selector.search t options slot = selector.search t' options slot := by
  obtain ⟨scope, combinator, next, kindTest, pseudoTest, position⟩ := selector
  rcases combinator with _ | combinator
  · rcases scope with _ | path
    · rw [search_eq rfl rfl, search_eq rfl rfl]
      refine gather_congr fun m hm => ?_
      rw [passing_eq_of_agreeOn h hholds options (hslot m hm)]
    · cases next with
      | none => rfl
      | some next =>
        rw [search, search]
        refine gather_congr fun m hm => ?_
        rw [← h.resolve_eq (hslot m hm)]
        exact (hnext _ rfl).search options (Tree.isInside_resolve h.closed (hslot m hm) path)
  · cases next with
    | none => rfl
    | some next =>
      obtain ⟨heq, hreached⟩ := hmove _ rfl slot hslot
      rw [search, search, ← heq]
      rw [filter_congr fun n hn => (hnext _ rfl).holds (hreached n hn) (hreached n hn)]

end Selector

/-! ### Queries -/

/-- The demand that all moves are made by certain combinators. -/
def Demands.moves (allowed : Combinator → Bool) : Demands where
  onAttribute _ := true
  onSelector selector := selector.combinator.all allowed
  onPseudoTest _ := true

/-- A selector meets the demand when its own move, if it has one, is made by an allowed
combinator. -/
theorem Demands.moves_onSelector {allowed : Combinator → Bool} {selector : Selector} :
    (moves allowed).onSelector selector = true ↔
      ∀ combinator ∈ selector.combinator, allowed combinator = true := by
  change selector.combinator.all allowed = true ↔ _
  cases selector.combinator <;> simp

/-- Whether a query makes its moves by certain combinators only, in pseudo classes and values
too. -/
def Query.movesAlong (allowed : Combinator → Bool) (query : Query) : Bool :=
  query.meetsThroughout (.moves allowed)

/-- Every query moves along some combinator or other. -/
theorem Query.movesAlong_of_forall {allowed : Combinator → Bool}
    (hall : ∀ combinator, allowed combinator = true) (query : Query) :
    query.movesAlong allowed = true :=
  (metCases (fun _ => rfl) (fun _ => Demands.moves_onSelector.mpr fun _ _ => hall _)
    fun _ => rfl).ofQuery query

section

variable {allowed : Combinator → Bool}

/-- A selector that meets the demand moves to the same nodes in both trees. -/
theorem Selector.agreeAlong_of_meets
    (halong : ∀ combinator, allowed combinator = true → t.AgreeAlong t' inside combinator)
    {selector : Selector} (hmeets : selector.meetsThroughout (.moves allowed) = true) :
    ∀ combinator ∈ selector.combinator, t.AgreeAlong t' inside combinator := by
  intro combinator hcombinator
  obtain ⟨hmoves, -⟩ := Selector.meetsThroughout_iff.mp hmeets
  exact halong combinator (Demands.moves_onSelector.mp hmoves combinator hcombinator)

/-- What a selector finds stays among the nodes on which the trees agree. -/
theorem Selector.inside_of_mem_search_of_meets (h : t.AgreeOn t' inside)
    (halong : ∀ combinator, allowed combinator = true → t.AgreeAlong t' inside combinator)
    {selector : Selector} (hmeets : selector.meetsThroughout (.moves allowed) = true)
    {options : Options} {slot : Slot ν} (hslot : slot.IsInside inside) {found : List ν}
    (hfound : selector.search t options slot = .ok found) {n : ν} (hn : n ∈ found) : inside n := by
  refine Finds.isInside h.closed (fun selector => selector.meetsThroughout (.moves allowed) = true)
    ?_ ?_ hmeets hslot (selector.finds_of_mem_search hfound hn)
  · intro selector hmeets combinator hcombinator slot hslot
    exact (agreeAlong_of_meets halong hmeets combinator hcombinator slot hslot).2
  · intro selector hmeets
    exact (Selector.meetsThroughout_iff.mp hmeets).2.1

/-- **Everything that moves along combinators on which the trees agree has the same results.** -/
theorem alikeResultCases (h : t.AgreeOn t' inside)
    (halong : ∀ combinator, allowed combinator = true → t.AgreeAlong t' inside combinator) :
    QueryCases
      (fun value => value.meetsThroughout (.moves allowed) = true → value.TestedAlike t t' inside)
      (fun attributes => Attribute.allMeetThroughout (.moves allowed) attributes = true →
        ∀ {base n}, inside base → inside n →
          Attribute.allHold t base attributes n = Attribute.allHold t' base attributes n)
      (fun selector => selector.meetsThroughout (.moves allowed) = true →
        selector.RunsAlike t t' inside)
      (fun chain => chain.meetsThroughout (.moves allowed) = true →
        ∀ options {slot : Slot ν}, slot.IsInside inside →
          chain.search t options slot = chain.search t' options slot)
      (fun query => Chain.allMeetThroughout (.moves allowed) query = true →
        ∀ options {slot : Slot ν}, slot.IsInside inside →
          Chain.searchAll t options query slot = Chain.searchAll t' options query slot) where
  scalar value harray hselector _ := Value.testedAlike_scalar h harray hselector
  array items ih hmeets :=
    Value.testedAlike_array h fun value hvalue =>
      ih value hvalue (Value.allMeetThroughout_iff.mp hmeets value hvalue)
  selectorValue selector ih hmeets := Value.testedAlike_selector (ih hmeets).holds
  noAttribute _ _ _ _ _ := rfl
  moreAttributes key operator value rest ih ih' hmeets base n hbase hn := by
    rw [Attribute.allMeetThroughout, Bool.and_eq_true, Bool.and_eq_true] at hmeets
    obtain ⟨⟨-, hvalue⟩, hrest⟩ := hmeets
    have hkey := Tree.isInside_resolve h.closed hn key
    rw [Attribute.allHold, Attribute.allHold, Attribute.holds_eq, Attribute.holds_eq,
      ← h.resolve_eq hn, Value.holds_eq_of_agreeOn h (ih hvalue) hbase hkey, ih' hrest hbase hn]
  selector selector hnext hattributes hquery hmeets := by
    obtain ⟨-, hn, hk, hp⟩ := Selector.meetsThroughout_iff.mp hmeets
    have hholds : ∀ {base n}, inside base → inside n →
        selector.holds t base n = selector.holds t' base n :=
      Selector.holds_eq_of_agreeOn h (fun test htest => hattributes test htest (hk test htest))
        fun test htest => hquery test htest (hp test htest).2
    exact ⟨hholds, Selector.search_eq_of_agreeOn h hholds
      (Selector.agreeAlong_of_meets halong hmeets) fun next hmem => hnext next hmem (hn next hmem)⟩
  last selector ih hmeets := (ih hmeets).search
  link selector rest ih ih' hmeets options slot hslot := by
    obtain ⟨hselector, hrest⟩ := Bool.and_eq_true_iff.mp hmeets
    rw [Chain.search, Chain.search, ← (ih hselector).search options hslot]
    cases hfound : selector.search t options slot with
    | error error => rfl
    | ok found =>
      refine gather_congr fun n hn => ih' hrest options (isInside_node.mpr ?_)
      exact Selector.inside_of_mem_search_of_meets h halong hselector hslot hfound hn
  noChain _ _ _ _ := rfl
  moreChains chain rest ih ih' hmeets options slot hslot := by
    obtain ⟨hchain, hrest⟩ := Bool.and_eq_true_iff.mp hmeets
    rw [Chain.searchAll, Chain.searchAll, ih hchain options hslot, ih' hrest options hslot]

/-- **A query that moves along combinators on which the trees agree** has the same result from every
slot inside. -/
theorem Query.search_eq_of_agreeOn (h : t.AgreeOn t' inside)
    (halong : ∀ combinator, allowed combinator = true → t.AgreeAlong t' inside combinator)
    {query : Query} (hmoves : query.movesAlong allowed = true) (options : Options) {slot : Slot ν}
    (hslot : slot.IsInside inside) : query.search t options slot = query.search t' options slot :=
  (alikeResultCases h halong).ofQuery query hmoves options hslot

end

/-! ### Rule sets -/

namespace RuleValue

mutual

/-- A slot agrees with an expectation in both trees or in neither. -/
theorem agrees_eq_of_agreeOn (h : t.AgreeOn t' inside) :
    ∀ (value : RuleValue) {slot : Slot ν}, slot.IsInside inside →
      value.agrees t slot = value.agrees t' slot
  | .any, _, _ => rfl
  | .nil, _, hslot | .boolean _, _, hslot => by rw [agrees, agrees, h.reduce_eq hslot]
  | .integer _, _, hslot | .float _, _, hslot => by
    rw [agrees, agrees, Tree.agreesWithNumber, Tree.agreesWithNumber, h.reduce_eq hslot]
  | .text value, slot, hslot => by
    cases slot with
    | node n => simp only [agrees, Tree.agreesWithText, h.source n (isInside_node.mp hslot)]
    | _ => rfl
  | .symbol name, slot, hslot => by
    cases slot with
    | node n => simp only [agrees, Tree.agreesWithSymbol, h.source n (isInside_node.mp hslot)]
    | _ => rfl
  | .pattern p, slot, hslot => by
    have htext := h.text_eq slot hslot
    cases slot with
    | node n => exact congrArg (fun text => Except.ok (p.isMatch text)) htext
    | _ => rfl
  | .array values, slot, hslot => by
    rw [agrees, agrees, ← h.elements?_eq hslot]
    cases hitems : Tree.elements? slot (t.reduce slot) with
    | none => rfl
    | some items =>
      have hinside := h.isInside_of_mem_elements hslot hitems
      simp only [agreeAll_eq_of_agreeOn h values hinside]
  | .rules _, _, _ => rfl
termination_by structural value => value

/-- Elements agree one by one with what a rule expects in both trees or in neither. -/
theorem agreeAll_eq_of_agreeOn (h : t.AgreeOn t' inside) :
    ∀ (values : List RuleValue) {items : List (Slot ν)}, (∀ item ∈ items, item.IsInside inside) →
      agreeAll t values items = agreeAll t' values items
  | [], _, _ => rfl
  | _ :: _, [], _ => rfl
  | value :: values, item :: items, hitems => by
    obtain ⟨hitem, hitems⟩ := List.forall_mem_cons.mp hitems
    rw [agreeAll, agreeAll, agrees_eq_of_agreeOn h value hitem,
      agreeAll_eq_of_agreeOn h values hitems]
termination_by structural values => values

end

/-- **Every keyword has the same result.** -/
theorem compare_eq_of_agreeOn (h : t.AgreeOn t' inside) (expected : RuleValue)
    (keyword : Option Keyword) {slot : Slot ν} (hslot : slot.IsInside inside) :
    expected.compare t keyword slot = expected.compare t' keyword slot := by
  have hagrees := agrees_eq_of_agreeOn h expected hslot
  have hany : ∀ values : List RuleValue,
      Fallible.any (fun value => value.agrees t slot) values =
        Fallible.any (fun value => value.agrees t' slot) values :=
    fun values => any_congr fun value _ => agrees_eq_of_agreeOn h value hslot
  have hincludes : ∀ items, Tree.elements? slot (t.reduce slot) = some items →
      Fallible.any (fun item => expected.agrees t item) items =
        Fallible.any (fun item => expected.agrees t' item) items := by
    intro items hitems
    exact any_congr fun item hitem =>
      agrees_eq_of_agreeOn h expected (h.isInside_of_mem_elements hslot hitems item hitem)
  have hnumber : ∀ holds number,
      t.agreesWithNumber holds number slot = t'.agreesWithNumber holds number slot := by
    intro holds number
    rw [Tree.agreesWithNumber, Tree.agreesWithNumber, h.reduce_eq hslot]
  unfold RuleValue.compare
  cases keyword with
  | none => exact hagrees
  | some keyword =>
    cases keyword with
    | not => simp only [hagrees]
    | memberOf | notMemberOf => simp only [hany]
    | greater | greaterOrEqual | less | lessOrEqual => simp only [hnumber]
    | includes | notIncludes =>
      dsimp only
      rw [← h.elements?_eq hslot]
      cases hitems : Tree.elements? slot (t.reduce slot) with
      | none => rfl
      | some items => simp only [hincludes items hitems]

end RuleValue

/-- A condition holds in both trees or in neither. -/
theorem Condition.holds_eq_of_agreeOn (h : t.AgreeOn t' inside) (condition : Condition) {n : ν}
    (hn : inside n) : condition.holds t n = condition.holds t' n := by
  have hexpand : condition.expected.expand t n = condition.expected.expand t' n := by
    cases condition.expected with
    | text template => exact congrArg RuleValue.text (h.expandTemplate_eq template hn)
    | _ => rfl
  rw [holds, holds, hexpand, ← h.resolve_eq hn,
    RuleValue.compare_eq_of_agreeOn h _ _ (Tree.isInside_resolve h.closed hn _)]

/-- A rule set holds of a node in both trees or in neither. -/
theorem RuleSet.holds_eq_of_agreeOn (h : t.AgreeOn t' inside) (ruleSet : RuleSet) {n : ν}
    (hn : inside n) : ruleSet.holds t n = ruleSet.holds t' n :=
  all_congr fun condition _ => condition.holds_eq_of_agreeOn h hn

/-- **A rule set has the same result** from every slot inside. -/
theorem RuleSet.search_eq_of_agreeOn (h : t.AgreeOn t' inside) (ruleSet : RuleSet)
    (options : Options) {slot : Slot ν} (hslot : slot.IsInside inside) :
    ruleSet.search t options slot = ruleSet.search t' options slot :=
  gather_congr fun m hm =>
    h.search_eq (fun _ hn => ruleSet.holds_eq_of_agreeOn h hn) options (hslot m hm)

end TreeQuery
