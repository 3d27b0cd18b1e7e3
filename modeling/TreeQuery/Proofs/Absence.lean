import TreeQuery.Proofs.Query.Opposites
import TreeQuery.Proofs.Query.RoundTrip
import TreeQuery.Rule.Search

/-!
# What is absent

A key path that cannot be walked leads to the absent slot. In a query **nothing positive is true of
what is absent** unless it names it: the slot is equal to `nil` and a member of an array that holds
`nil`. An identifier is compared with the text of the slot, which is empty when it is absent; this
is harmless since no identifier is empty in a query that was read.

A rule set compares texts in the same way, but there a text can be empty. **A rule that expects the
empty text is satisfied by a node that has nothing there**, and so is one that expects two single
quotes, which is the empty text between quotes. This is so for a text in an array, and for a
template that is filled in with nothing.

## Main definitions and results

* `Value.Within`, `Value.WithinQuery` — the values written in a query, at any depth.
* `Value.NamesAbsent` — the comparisons that name what is absent.
* `Value.namesAbsent_of_holds`: no others hold of it in a query.
* `RuleValue.AgreesWithAbsent` — the expectations that the absent slot agrees with.
* `holds_of_absent`: **what queries and rule sets say of what is absent**.
-/

namespace TreeQuery

open Fallible

variable {ν : Type} {t : Tree ν} {base : ν}

/-! ### The values of a query -/

mutual

/-- A value is written in another one, or is that value. -/
inductive Value.Within (value : Value) : Value → Prop where
  /-- The value itself. -/
  | self : Value.Within value value
  /-- In an element of an array. -/
  | element {items : List Value} {item : Value} :
      item ∈ items → Value.Within value item → Value.Within value (.array items)
  /-- In a selector. -/
  | selector {selector : Selector} :
      Value.WithinSelector value selector → Value.Within value (.selector selector)

/-- A value is written in a selector. -/
inductive Value.WithinSelector (value : Value) : Selector → Prop where
  /-- In the selector behind the move. -/
  | next {selector next : Selector} : selector.next = some next →
      Value.WithinSelector value next → Value.WithinSelector value selector
  /-- In an attribute. -/
  | kindTest {selector : Selector} {test : KindTest} {a : Attribute} :
      selector.kindTest = some test → a ∈ test.attributes → Value.Within value a.value →
      Value.WithinSelector value selector
  /-- In the test by what can be found below. -/
  | pseudoTest {selector : Selector} {test : PseudoTest} : selector.pseudoTest = some test →
      Value.WithinQuery value test.query → Value.WithinSelector value selector

/-- A value is written in a chain. -/
inductive Value.WithinChain (value : Value) : Chain → Prop where
  /-- In the last selector. -/
  | last {selector : Selector} :
      Value.WithinSelector value selector → Value.WithinChain value (.last selector)
  /-- In a selector with others behind. -/
  | head {selector : Selector} {rest : Chain} :
      Value.WithinSelector value selector → Value.WithinChain value (.link selector rest)
  /-- In the selectors behind. -/
  | rest {selector : Selector} {rest : Chain} :
      Value.WithinChain value rest → Value.WithinChain value (.link selector rest)

/-- A value is written in a query. -/
inductive Value.WithinQuery (value : Value) : List Chain → Prop where
  /-- In an alternative. -/
  | alternative {chain : Chain} {query : List Chain} :
      chain ∈ query → Value.WithinChain value chain → Value.WithinQuery value query

end

/-- **What is written in a grammatical query is composed**: case by case. -/
theorem composedCases : QueryCases
    (fun value => value.isComposed = true → value.meets grammar = true →
      ∀ inner : Value, inner.Within value → inner.isComposed = true)
    (fun attributes => Attribute.allMeet grammar attributes = true →
      ∀ a ∈ attributes, ∀ inner : Value, inner.Within a.value → inner.isComposed = true)
    (fun selector => selector.meets grammar = true →
      ∀ inner : Value, inner.WithinSelector selector → inner.isComposed = true)
    (fun chain => chain.meets grammar = true →
      ∀ inner : Value, inner.WithinChain chain → inner.isComposed = true)
    (fun query => Chain.allMeet grammar query = true →
      ∀ inner : Value, inner.WithinQuery query → inner.isComposed = true) where
  scalar value harray hselector hcomposed _ inner hinner := by
    cases hinner with
    | self => exact hcomposed
    | element => exact absurd rfl (harray _)
    | selector => exact absurd rfl (hselector _)
  array items ih hcomposed _ inner hinner := by
    cases hinner with
    | self => exact hcomposed
    | @element _ item hitem hinner =>
      -- The grammar makes no demands inside arrays, but their elements are scalars.
      have hscalar : item.isScalar = true := List.all_eq_true.mp hcomposed item hitem
      exact ih item hitem (Value.isComposed_of_isScalar hscalar) (Value.meets_of_isScalar hscalar)
        inner hinner
  selectorValue selector ih hcomposed hmeets inner hinner := by
    cases hinner with
    | self => exact hcomposed
    | selector hinner => exact ih hmeets inner hinner
  noAttribute _ a ha := absurd ha List.not_mem_nil
  moreAttributes key operator value rest ih ih' hmeets := by
    rw [Attribute.allMeet, Bool.and_eq_true, Bool.and_eq_true] at hmeets
    obtain ⟨⟨hattribute, hvalue⟩, hrest⟩ := hmeets
    rw [List.forall_mem_cons]
    exact ⟨ih (Bool.and_eq_true_iff.mp hattribute).2 hvalue, ih' hrest⟩
  selector selector hnext hattributes hquery hmeets inner hinner := by
    obtain ⟨-, hn, hk, hp⟩ := Selector.meets_iff.mp hmeets
    cases hinner with
    | next h hinner => exact hnext _ h (hn _ h) inner hinner
    | kindTest h ha hinner => exact hattributes _ h (hk _ h) _ ha inner hinner
    | pseudoTest h hinner => exact hquery _ h (hp _ h).2 inner hinner
  last selector ih hmeets inner hinner := by
    cases hinner with
    | last hinner => exact ih hmeets inner hinner
  link selector rest ih ih' hmeets inner hinner := by
    obtain ⟨hselector, hrest⟩ := Bool.and_eq_true_iff.mp hmeets
    cases hinner with
    | head hinner => exact ih hselector inner hinner
    | rest hinner => exact ih' hrest inner hinner
  noChain _ inner hinner := by
    cases hinner with
    | alternative h => cases h
  moreChains chain rest ih ih' hmeets inner hinner := by
    obtain ⟨hchain, hrest⟩ := Bool.and_eq_true_iff.mp hmeets
    cases hinner with
    | alternative h hinner =>
      cases h with
      | head => exact ih hchain inner hinner
      | tail _ h => exact ih' hrest inner (.alternative h hinner)

/-- A value written in a query that was read is put together as the grammar says. -/
theorem Value.isComposed_of_withinQuery {text : String} {query : Query}
    (h : Query.ofText text = .ok query) {value : Value} (hvalue : value.WithinQuery query) :
    value.isComposed = true :=
  composedCases.ofQuery query (Bool.and_eq_true_iff.mp (Query.isGrammatical_of_ofText h)).2 value
    hvalue

/-! ### Comparing with what is absent -/

/-- Whether an operator says that a comparison holds, not that it does not. -/
def Operator.isPositive : Operator → Bool
  | notEqual | unlike | notMemberOf | notIncludes => false
  | _ => true

namespace Value

/-- No identifier that is written is empty. -/
theorem ne_empty_of_isComposed {value : Value} (h : value.isComposed = true) :
    value ≠ identifier "" := by
  rintro rfl
  exact absurd h (by decide)

/-- A comparison of texts that holds of the absent slot holds of the empty text and one that is not
empty. -/
theorem exists_of_compareTexts_absent {value : Value} (hvalue : value ≠ identifier "")
    {holds : (actual expected : List Char) → Bool}
    (h : value.compareTexts t base holds .absent = true) :
    ∃ expected, expected ≠ [] ∧ holds [] expected = true := by
  cases value with
  | identifier name =>
    refine ⟨name.toList, fun hname => hvalue ?_, h⟩
    rw [String.toList_eq_nil_iff.mp hname]
  | _ => cases h

/-- The absent slot stands in no order to a number. -/
theorem compareNumbers_absent (value : Value) (holds : (actual expected : Number) → Bool) :
    value.compareNumbers t holds .absent = false := rfl

/-- No pattern matches the absent slot. -/
theorem isLike_absent (value : Value) : value.isLike t .absent = false := by
  cases value <;> rfl

/-- Nothing that is written is equal to the absent slot but `nil`. -/
theorem eq_nil_of_isEqual_absent {value : Value} (hvalue : value ≠ identifier "")
    (h : value.isEqual t base .absent = .ok true) : value = nil := by
  cases value with
  | nil => rfl
  | identifier name =>
    obtain ⟨expected, hne, heq⟩ := exists_of_compareTexts_absent hvalue (Except.ok.inj h)
    exact absurd (beq_iff_eq.mp heq).symm hne
  | _ => cases h

/-- A member of an array that is absent is `nil` in the array. -/
theorem nil_mem_of_isMember_absent {values : List Value}
    (hvalues : ∀ value ∈ values, value ≠ identifier "")
    (h : (array values).isMember t base .absent = .ok true) : nil ∈ values := by
  rw [isMember, isEqualToAny_eq_any] at h
  obtain ⟨value, hmem, hvalue⟩ := exists_of_any_eq_ok_true h
  rwa [← eq_nil_of_isEqual_absent (hvalues value hmem) hvalue]

/-- The comparisons that name what is absent: with `nil` for equality, and with an array that holds
`nil` for membership. -/
inductive NamesAbsent : Value → Operator → Prop where
  /-- The slot is `nil`. -/
  | equal : NamesAbsent nil .equal
  /-- The slot is a member of an array that holds `nil`. -/
  | memberOf {values : List Value} : nil ∈ values → NamesAbsent (array values) .memberOf

/-- **Nothing positive is true of what is absent** but what names it. -/
theorem namesAbsent_of_holds {value : Value} (hcomposed : value.isComposed = true)
    {operator : Operator} (hpositive : operator.isPositive = true)
    (h : value.holds t base operator .absent = .ok true) : value.NamesAbsent operator := by
  have hvalue := ne_empty_of_isComposed hcomposed
  unfold holds compareBy at h
  split at h
  case isFalse => cases h
  cases operator with
  | equal =>
    rw [eq_nil_of_isEqual_absent hvalue h]
    exact .equal
  | memberOf =>
    -- What is absent is no list, so that it is asked for as a whole.
    change Fallible.all (value.isMember t base) [.absent] = _ at h
    rw [all_singleton] at h
    cases value with
    | array values =>
      refine .memberOf (nil_mem_of_isMember_absent (fun item hitem => ?_) h)
      exact ne_empty_of_isComposed
        (isComposed_of_isScalar (List.all_eq_true.mp hcomposed item hitem))
    | _ => cases h
  | startsWith | endsWith | contains =>
    -- No text but the empty one begins, ends or occurs in the empty text.
    obtain ⟨expected, hne, hholds⟩ := exists_of_compareTexts_absent hvalue (Except.ok.inj h)
    cases expected with
    | nil => exact absurd rfl hne
    | cons c rest => simp [Text.occursIn] at hholds
  | greater | greaterOrEqual | less | lessOrEqual =>
    rw [compareNumbers_absent] at h
    cases h
  | like =>
    rw [isLike_absent] at h
    cases h
  | includes => cases h
  | notEqual | unlike | notMemberOf | notIncludes => cases hpositive

end Value

/-! ### Rules and what is absent -/

/-- The expectations that the absent slot agrees with: nothing, and the empty text, bare or between
quotes. -/
inductive RuleValue.AgreesWithAbsent : RuleValue → Prop where
  /-- Nothing. -/
  | nil : AgreesWithAbsent .nil
  /-- The empty text. -/
  | empty : AgreesWithAbsent (.text "")
  /-- The empty text between quotes. -/
  | quoted : AgreesWithAbsent (.text "''")

namespace RuleValue

/-- The absent slot agrees with a text when its own text does, which is empty. -/
theorem agreesWithAbsent_text_iff {value : String} :
    (text value).AgreesWithAbsent ↔ t.agreesWithText value .absent = true := by
  constructor
  · rintro (_ | _ | _) <;> rfl
  · intro h
    rcases Bool.or_eq_true_iff.mp h with hempty | hquoted
    · have hvalue : value = "" := String.toList_inj.mp (beq_iff_eq.mp hempty).symm
      rw [hvalue]
      exact .empty
    · have hvalue : value = "''" := String.toList_inj.mp (beq_iff_eq.mp hquoted).symm
      rw [hvalue]
      exact .quoted

/-- **The absent slot agrees with what a rule expects exactly when the expected value allows for
absence.** -/
theorem agrees_absent_iff {expected : RuleValue} :
    expected.agrees t .absent = .ok true ↔ expected.AgreesWithAbsent := by
  cases expected with
  | nil => exact iff_of_true rfl .nil
  | text value =>
    rw [agreesWithAbsent_text_iff]
    exact ⟨Except.ok.inj, congrArg Except.ok⟩
  | _ => exact iff_of_false (by rintro ⟨⟩) (by rintro ⟨⟩)

/-- What is absent is no number, and no sequence with elements. -/
theorem compare_absent_ne_ok_true {expected : RuleValue} {keyword : Keyword}
    (h : keyword ∈ [.greater, .greaterOrEqual, .less, .lessOrEqual, .includes]) :
    expected.compare t (some keyword) .absent ≠ .ok true := by
  intro hcompare
  simp only [List.mem_cons, List.not_mem_nil, or_false] at h
  rcases h with rfl | rfl | rfl | rfl | rfl
  case inr.inr.inr.inr => cases hcompare
  all_goals
    simp only [compare] at hcompare
    split at hcompare <;> cases hcompare

/-- What is absent is an element of an array that holds an expectation it agrees with. -/
theorem exists_of_compare_memberOf_absent {expected : RuleValue}
    (h : expected.compare t (some .memberOf) .absent = .ok true) :
    ∃ values, expected = .array values ∧ ∃ value ∈ values, value.AgreesWithAbsent := by
  cases expected with
  | array values =>
    obtain ⟨value, hmem, hvalue⟩ := exists_of_any_eq_ok_true h
    exact ⟨values, rfl, value, hmem, agrees_absent_iff.mp hvalue⟩
  | _ => cases h

end RuleValue

/-- An array is expected as it is written. -/
theorem RuleValue.eq_array_of_expand {expected : RuleValue} {n : ν} {values : List RuleValue}
    (h : expected.expand t n = .array values) : expected = .array values := by
  cases expected <;> first | exact h | cases h

/-- **What queries and rule sets say of what is absent.** Of the values written in a query that was
read, none compares positively with the absent slot but `nil` by equality and arrays that hold `nil`
by membership. A condition whose path leads to nothing holds when it expects nothing, but also
**when it expects the empty text**, bare or between quotes, once its template is filled in; none
that asks for an order or for an element holds, and one that asks for membership only if its array
holds such an expectation. -/
theorem holds_of_absent (t : Tree ν) (n : ν) :
    (∀ text query, Query.ofText text = .ok query → ∀ value : Value, value.WithinQuery query →
      ∀ base path operator, t.resolve n path = .absent → operator.isPositive = true →
        value.holds t base operator (t.resolve n path) = .ok true → value.NamesAbsent operator) ∧
    (∀ condition : Condition,
      t.resolve n condition.path = .absent →
        (condition.keyword? = none →
          (condition.holds t n = .ok true ↔
            (condition.expected.expand t n).AgreesWithAbsent)) ∧
        (∀ keyword ∈ [.greater, .greaterOrEqual, .less, .lessOrEqual, .includes],
          condition.keyword? = some keyword → condition.holds t n ≠ .ok true) ∧
        (condition.keyword? = some .memberOf → condition.holds t n = .ok true →
          ∃ values, condition.expected = .array values ∧
            ∃ value ∈ values, value.AgreesWithAbsent)) := by
  constructor
  · intro text query hread value hwithin base path operator habsent hpositive hholds
    rw [habsent] at hholds
    exact Value.namesAbsent_of_holds (Value.isComposed_of_withinQuery hread hwithin)
      hpositive hholds
  · intro condition habsent
    simp only [ne_eq, Condition.holds_eq_ok_iff, habsent]
    refine ⟨fun hkeyword => ?_, fun keyword hmem hkeyword => ?_, fun hkeyword hholds => ?_⟩
    · rw [hkeyword]
      exact RuleValue.agrees_absent_iff
    · rw [hkeyword]
      exact RuleValue.compare_absent_ne_ok_true hmem
    · rw [hkeyword] at hholds
      obtain ⟨values, hvalues, hexists⟩ := RuleValue.exists_of_compare_memberOf_absent hholds
      exact ⟨values, RuleValue.eq_array_of_expand hvalues, hexists⟩

/-- The nodes that have nothing there. -/
def missingQuery : Query :=
  [.last { kindTest := some ⟨"A", [⟨⟨[.name "missing"]⟩, .equal, .nil⟩]⟩ }]

/-- The query is what its text is read as. -/
theorem ofText_missingQuery : Query.ofText ".A[missing = nil]" = .ok missingQuery := by
  cbv

/-- The value of its attribute is a value within the query. -/
theorem nil_withinQuery_missingQuery : Value.nil.WithinQuery missingQuery :=
  .alternative List.mem_cons_self (.last (.kindTest rfl List.mem_cons_self .self))

/-- The condition that a text is empty. -/
def emptyCondition : Condition := ⟨["missing"], .text ""⟩

/-- The empty text has no markers, and is expected as it stands. -/
theorem expand_emptyCondition (n : ν) : emptyCondition.expected.expand t n = .text "" := by
  simp [emptyCondition, RuleValue.expand, Tree.expandTemplate, Template.expand]

/-- A node without the accessor is equal to `nil` there; it has no number there that is larger than
one, and an array that holds nothing has it as an element. -/
theorem holds_of_absent_oneNode :
    Value.nil.holds oneNode.tree 0 .equal (oneNode.tree.resolve 0 ⟨[.name "missing"]⟩) = .ok true ∧
      Value.nil.NamesAbsent .equal ∧
      (emptyCondition.holds oneNode.tree 0 = .ok true ↔
        (emptyCondition.expected.expand oneNode.tree 0).AgreesWithAbsent) ∧
      Condition.holds oneNode.tree ⟨["missing", "gt"], .integer 1⟩ 0 ≠ .ok true ∧
      Condition.holds oneNode.tree ⟨["missing", "in"], .array [.nil]⟩ 0 = .ok true ∧
      ∃ values, RuleValue.array [.nil] = .array values ∧
        ∃ value ∈ values, value.AgreesWithAbsent := by
  obtain ⟨hquery, hrule⟩ := holds_of_absent oneNode.tree 0
  have hholds : Value.nil.holds oneNode.tree 0 .equal
      (oneNode.tree.resolve 0 ⟨[.name "missing"]⟩) = .ok true := rfl
  have hmember : Condition.holds oneNode.tree ⟨["missing", "in"], .array [.nil]⟩ 0 = .ok true := rfl
  exact ⟨hholds, hquery _ _ ofText_missingQuery _ nil_withinQuery_missingQuery 0 _ _ rfl rfl hholds,
    (hrule emptyCondition rfl).1 rfl,
    (hrule ⟨["missing", "gt"], .integer 1⟩ rfl).2.1 .greater (by decide) rfl,
    hmember, (hrule ⟨["missing", "in"], .array [.nil]⟩ rfl).2.2 rfl hmember⟩

/-- **A condition that expects something can hold of what is absent.** -/
theorem not_forall_eq_nil_of_absent :
    ¬ ∀ (a : Arena) (n : Nat) (condition : Condition),
      a.tree.resolve n condition.path = .absent → condition.keyword? = none →
        condition.holds a.tree n = .ok true → condition.expected = .nil := by
  intro h
  have habsent : oneNode.tree.resolve 0 emptyCondition.path = .absent := rfl
  have hholds : emptyCondition.holds oneNode.tree 0 = .ok true := by
    rw [Condition.holds_eq_ok_iff, expand_emptyCondition]
    rfl
  cases h oneNode 0 emptyCondition habsent rfl hholds

end TreeQuery
