import TreeQuery.Arena
import TreeQuery.Fallible
import TreeQuery.Query.Search

/-!
# Operators and their negations

A query tests a slot for difference with a value by a walk of its own: arrays are compared element
by element until one differs, where equality goes on until one is not equal. Both walks end at the
same element, so that **a slot differs from a value exactly when it is not equal to it**, and one
test fails where the other does.

The other negative operators are built from these two. A membership that is asked of a list is asked
of each of its elements, in both forms, so that the two are no opposites there: the empty list
passes both. An element that is a list itself is then compared as a whole, though asked on its own
it would be taken apart once more.

## Main definitions and results

* `Fallible.Opposite` — tests of which both fail, or which have opposite answers.
* `Value.opposite_isEqual_differs`: equality and difference are opposite.
* `Value.opposite_operators`: **what every negative operator is to the positive one**.
-/

namespace TreeQuery

/-! ### Opposite tests -/

namespace Fallible

variable {α ε : Type}

/-- Both tests fail, or they have opposite answers. -/
inductive Opposite : Except ε Bool → Except ε Bool → Prop where
  /-- Both tests fail. -/
  | failures (error error' : ε) : Opposite (.error error) (.error error')
  /-- The answers are opposite. -/
  | answers (answer : Bool) : Opposite (.ok answer) (.ok !answer)

/-- Both tests fail, or neither holds. -/
inductive NeitherHolds : Except ε Bool → Except ε Bool → Prop where
  /-- Both tests fail. -/
  | failures (error error' : ε) : NeitherHolds (.error error) (.error error')
  /-- Neither holds. -/
  | answers : NeitherHolds (.ok false) (.ok false)

/-- An answer has its negation opposite. -/
theorem Opposite.eq_ok {x y : Except ε Bool} (h : Opposite x y) {answer : Bool}
    (hx : x = .ok answer) : y = .ok !answer := by
  cases h with
  | failures => cases hx
  | answers =>
    cases hx
    rfl

/-- A test is opposite to its negation. -/
theorem Opposite.not (x : Except ε Bool) : Opposite x (x >>= fun answer => .ok !answer) := by
  cases x with
  | error error => exact .failures error error
  | ok answer => exact .answers answer

/-- A first test decides on the further ones: where it holds, those are opposite. -/
theorem Opposite.guard {x x' y y' : Except ε Bool} (h : Opposite x x') (hrest : Opposite y y') :
    Opposite (x >>= fun holds => if holds then y else .ok false)
      (x' >>= fun holds => if holds then .ok true else y') := by
  cases h with
  | failures error error' => exact .failures error error'
  | answers answer =>
    cases answer with
    | false => exact .answers false
    | true => exact hrest

/-- Which of two opposite tests comes first does not matter. -/
theorem Opposite.symm {x y : Except ε Bool} (h : Opposite x y) : Opposite y x := by
  cases h with
  | failures error error' => exact .failures error' error
  | answers answer => simpa using Opposite.answers (ε := ε) (!answer)

/-- A first test decides on the further ones: where it does not hold, those are opposite. -/
theorem Opposite.unless {x x' y y' : Except ε Bool} (h : Opposite x x') (hrest : Opposite y y') :
    Opposite (x >>= fun holds => if holds then .ok true else y)
      (x' >>= fun holds => if holds then y' else .ok false) :=
  (h.symm.guard hrest.symm).symm

/-- Some element passes, or all of them pass the opposite test. -/
theorem opposite_any_all {test test' : α → Except ε Bool} (h : ∀ a, Opposite (test a) (test' a))
    (as : List α) : Opposite (any test as) (all test' as) := by
  induction as with
  | nil => exact .answers false
  | cons a as ih => exact (h a).unless ih

end Fallible

open Fallible

variable {ν : Type} {t : Tree ν} {base : ν}

/-! ### Equality and difference -/

mutual

/-- **A slot differs from a value when it is not equal to it.** -/
theorem Value.opposite_isEqual_differs :
    ∀ (value : Value) (slot : Slot ν),
      Opposite (value.isEqual t base slot) (value.differs t base slot)
  | .text _, _ | .template _, _ | .identifier _, _ | .symbol _, _ | .integer _, _ | .float _, _
  | .boolean _, _ | .nil, _ => .answers _
  | .pattern _, _ => .failures _ _
  | .array values, slot => by
    rw [isEqual, differs]
    split
    · split
      · exact Value.opposite_areEqual_someDiffers values _
      · exact .answers false
    · exact .answers false
  | .selector value, slot => by
    cases slot with
    | node n => exact .not (value.holds t base n)
    | _ => exact .answers false
termination_by structural value => value

/-- Some slot differs from its value when they are not all equal. -/
theorem Value.opposite_areEqual_someDiffers :
    ∀ (values : List Value) (items : List (Slot ν)),
      Opposite (Value.areEqual t base values items) (Value.someDiffers t base values items)
  | [], _ | _ :: _, [] => .answers true
  | value :: values, item :: items =>
    (Value.opposite_isEqual_differs value item).guard
      (Value.opposite_areEqual_someDiffers values items)
termination_by structural values => values

end

/-- Where the test of equality does not fail, difference is its negation. -/
theorem Value.differs_eq_ok {value : Value} {slot : Slot ν} {equal : Bool}
    (h : value.isEqual t base slot = .ok equal) : value.differs t base slot = .ok !equal :=
  (value.opposite_isEqual_differs slot).eq_ok h

/-! ### The operators -/

/-- The slot is a list, or stands for one. -/
def Tree.IsSequence (t : Tree ν) (slot : Slot ν) : Prop :=
  ∃ items, slot = .list items ∨ t.reduce slot = .list items

theorem Slot.isSome_items? {slot : Slot ν} :
    slot.items?.isSome ↔ ∃ items, slot = .list items := by
  cases slot <;> simp [items?]

namespace Value

/-- Every value answers for equality with its test of equality, a pattern with a failure. -/
theorem holds_equal (value : Value) (slot : Slot ν) :
    value.holds t base .equal slot = value.isEqual t base slot := by
  cases value <;> rfl

/-- Every value answers for difference with its test of difference, a pattern with a failure. -/
theorem holds_notEqual (value : Value) (slot : Slot ν) :
    value.holds t base .notEqual slot = value.differs t base slot := by
  cases value <;> rfl

/-- A list is a member if each of its elements equals one of the values. -/
theorem holds_memberOf_list (values : List Value) (items : List (Slot ν)) :
    (array values).holds t base .memberOf (.list items) =
      Fallible.all (isEqualToAny t base values) items := rfl

/-- A list is no member if each of its elements differs from all of the values. -/
theorem holds_notMemberOf_list (values : List Value) (items : List (Slot ν)) :
    (array values).holds t base .notMemberOf (.list items) =
      Fallible.all (differsFromAll t base values) items := rfl

/-- A slot that is no list is asked for as a whole. -/
theorem members_of_ne_list {slot : Slot ν} (h : ∀ items, slot ≠ .list items) :
    members slot = [slot] := by
  cases slot with
  | list items => exact absurd rfl (h items)
  | _ => rfl

/-- A slot that is no list is a member if it equals one of the values. -/
theorem holds_memberOf (values : List Value) {slot : Slot ν} (h : ∀ items, slot ≠ .list items) :
    (array values).holds t base .memberOf slot = isEqualToAny t base values slot := by
  change Fallible.all (isEqualToAny t base values) (members slot) = _
  rw [members_of_ne_list h, all_singleton]

/-- A slot that is no list is no member if it differs from all of the values. -/
theorem holds_notMemberOf (values : List Value) {slot : Slot ν}
    (h : ∀ items, slot ≠ .list items) :
    (array values).holds t base .notMemberOf slot = differsFromAll t base values slot := by
  change Fallible.all (differsFromAll t base values) (members slot) = _
  rw [members_of_ne_list h, all_singleton]

/-- Equality and difference are opposite as operators. -/
theorem opposite_equal_notEqual (value : Value) (slot : Slot ν) :
    Opposite (value.holds t base .equal slot) (value.holds t base .notEqual slot) := by
  rw [holds_equal, holds_notEqual]
  exact value.opposite_isEqual_differs slot

/-- A slot that is no list is a member of an array or not. -/
theorem opposite_memberOf_notMemberOf (values : List Value) {slot : Slot ν}
    (h : ∀ items, slot ≠ .list items) :
    Opposite ((array values).holds t base .memberOf slot)
      ((array values).holds t base .notMemberOf slot) := by
  rw [holds_memberOf values h, holds_notMemberOf values h, isEqualToAny_eq_any,
    differsFromAll_eq_all]
  exact opposite_any_all (fun value => value.opposite_isEqual_differs slot) values

/-- A value that admits one of inclusion and its negative admits the other. -/
theorem notIncludes_mem_operators {value : Value} :
    .notIncludes ∈ value.operators ↔ .includes ∈ value.operators := by
  cases value <;>
    simp [operators, Operator.ofText, Operator.ofScalar, Operator.ofNumber, Operator.ofPattern,
      Operator.ofArray]

/-- The elements of a sequence are there to be asked for, and of nothing else. -/
theorem elements?_isSome_iff {slot : Slot ν} :
    (Tree.elements? slot (t.reduce slot)).isSome ↔ t.IsSequence slot := by
  rw [Tree.elements?, Option.orElse_eq_orElse, Option.orElse_eq_or, Option.isSome_or,
    Bool.or_eq_true, Slot.isSome_items?, Slot.isSome_items?, Tree.IsSequence, exists_or]

/-- Whether a sequence includes a value or not. -/
theorem opposite_includes_notIncludes (value : Value) {slot : Slot ν} (h : t.IsSequence slot) :
    Opposite (value.holds t base .includes slot) (value.holds t base .notIncludes slot) := by
  obtain ⟨items, hitems⟩ := Option.isSome_iff_exists.mp (elements?_isSome_iff.mpr h)
  unfold holds compareBy
  by_cases hadmitted : .includes ∈ value.operators
  · rw [if_pos hadmitted, if_pos (notIncludes_mem_operators.mpr hadmitted)]
    simp only [hitems]
    exact .not _
  · rw [if_neg hadmitted, if_neg (mt notIncludes_mem_operators.mp hadmitted)]
    exact .failures _ _

/-- What is no sequence neither includes a value nor does not. -/
theorem neitherHolds_includes_notIncludes (value : Value) {slot : Slot ν}
    (h : ¬ t.IsSequence slot) :
    NeitherHolds (value.holds t base .includes slot) (value.holds t base .notIncludes slot) := by
  have hitems : Tree.elements? slot (t.reduce slot) = none := by
    rwa [← elements?_isSome_iff, Option.not_isSome_iff_eq_none] at h
  unfold holds compareBy
  by_cases hadmitted : .includes ∈ value.operators
  · rw [if_pos hadmitted, if_pos (notIncludes_mem_operators.mpr hadmitted)]
    simp only [hitems]
    exact .answers
  · rw [if_neg hadmitted, if_neg (mt notIncludes_mem_operators.mp hadmitted)]
    exact .failures _ _

/-- **What every negative operator is to the positive one**, for any value and slot. Difference is
the opposite of equality, and a pattern that does not match of one that does. Membership has its
opposite unless the slot is a list; a list is asked for each of its elements, from left to right and
in both forms, whether the element is equal to one of the values or differs from all of them, and
**an element that is no list answers that as it does on its own**. Inclusion in a sequence has its
opposite, and outside of one neither form holds. -/
theorem opposite_operators (t : Tree ν) (base : ν) (slot : Slot ν) :
    (∀ value : Value,
      Opposite (value.holds t base .equal slot) (value.holds t base .notEqual slot)) ∧
    (∀ p, ∃ like, (pattern p).holds t base .like slot = .ok like ∧
      (pattern p).holds t base .unlike slot = .ok !like) ∧
    (∀ values, (∀ items, slot ≠ .list items) →
      Opposite ((array values).holds t base .memberOf slot)
        ((array values).holds t base .notMemberOf slot)) ∧
    (∀ values items, slot = .list items →
      (array values).holds t base .memberOf slot =
          Fallible.all (isEqualToAny t base values) items ∧
        (array values).holds t base .notMemberOf slot =
          Fallible.all (differsFromAll t base values) items ∧
        ∀ item ∈ items, (∀ nested, item ≠ .list nested) →
          isEqualToAny t base values item = (array values).holds t base .memberOf item ∧
            differsFromAll t base values item =
              (array values).holds t base .notMemberOf item) ∧
    (∀ value : Value, t.IsSequence slot →
      Opposite (value.holds t base .includes slot) (value.holds t base .notIncludes slot)) ∧
    (∀ value : Value, ¬ t.IsSequence slot →
      NeitherHolds (value.holds t base .includes slot)
        (value.holds t base .notIncludes slot)) := by
  refine ⟨fun value => value.opposite_equal_notEqual slot, fun p => ⟨_, rfl, rfl⟩,
    fun values h => opposite_memberOf_notMemberOf values h, ?_,
    fun value => value.opposite_includes_notIncludes,
    fun value => value.neitherHolds_includes_notIncludes⟩
  rintro values items rfl
  exact ⟨holds_memberOf_list values items, holds_notMemberOf_list values items,
    fun item _ h => ⟨(holds_memberOf values h).symm, (holds_notMemberOf values h).symm⟩⟩

end Value

/-- A tree of one node. -/
def oneNode : Arena where
  nodes := #[{ kind := "A", source := "a" }]
  held_lt := by decide

/-- The number one is a member of the array of it and no sequence, and the list of it is both. -/
theorem Value.opposite_operators_oneNode :
    (array [integer 1]).holds oneNode.tree 0 .memberOf (.integer 1) = .ok true ∧
      Opposite ((array [integer 1]).holds oneNode.tree 0 .memberOf (.integer 1))
        ((array [integer 1]).holds oneNode.tree 0 .notMemberOf (.integer 1)) ∧
      NeitherHolds ((integer 1).holds oneNode.tree 0 .includes (.integer 1))
        ((integer 1).holds oneNode.tree 0 .notIncludes (.integer 1)) ∧
      (array [integer 1]).holds oneNode.tree 0 .memberOf (.list [.integer 1]) =
        Fallible.all (isEqualToAny oneNode.tree 0 [integer 1]) [.integer 1] ∧
      isEqualToAny oneNode.tree 0 [integer 1] (.integer 1) =
        (array [integer 1]).holds oneNode.tree 0 .memberOf (.integer 1) ∧
      Opposite ((integer 1).holds oneNode.tree 0 .includes (.list [.integer 1]))
        ((integer 1).holds oneNode.tree 0 .notIncludes (.list [.integer 1])) := by
  have hscalar : ∀ items, (.integer 1 : Slot Nat) ≠ .list items := by simp
  have hnone : ¬ oneNode.tree.IsSequence (.integer 1) := by
    rintro ⟨items, h | h⟩ <;> cases h
  obtain ⟨-, -, hmember, -, -, hneither⟩ := opposite_operators oneNode.tree 0 (.integer 1)
  obtain ⟨-, -, -, hlist, hincludes, -⟩ :=
    opposite_operators oneNode.tree 0 (.list [.integer 1])
  obtain ⟨hall, -, hitem⟩ := hlist [integer 1] [.integer 1] rfl
  exact ⟨rfl, hmember [integer 1] hscalar, hneither (integer 1) hnone, hall,
    (hitem _ List.mem_cons_self hscalar).1, hincludes (integer 1) ⟨_, .inl rfl⟩⟩

/-- **A list is not asked for its elements as they are asked on their own.** The list of the number
one is a member of the array of that number, but the list of that list is not. -/
theorem Value.not_forall_memberOf_list :
    ¬ ∀ (a : Arena) (base : Nat) (values : List Value) (items : List (Slot Nat)),
      (array values).holds a.tree base .memberOf (.list items) =
        Fallible.all (fun item => (array values).holds a.tree base .memberOf item) items := by
  intro h
  have hmember := h oneNode 0 [integer 1] [.list [.integer 1]]
  have hwhole : (array [integer 1]).holds oneNode.tree 0 .memberOf (.list [.list [.integer 1]]) =
      .ok false := rfl
  have helements : Fallible.all
      (fun item => (array [integer 1]).holds oneNode.tree 0 .memberOf item)
      [.list [.integer 1]] = .ok true := rfl
  cases hwhole.symm.trans (hmember.trans helements)

end TreeQuery
