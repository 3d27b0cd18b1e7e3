import TreeQuery.Proofs.Query.Opposites

/-!
# Nodes that stand for lists

A node may stand for a list, as the literal of an array does. An array is compared with the elements
of such a node, and a value is looked for among them, **as if the list itself were there**: both
take the elements from what the slot is reduced to.

Membership does not. It asks for the elements of a list that is there already, and for a node as a
whole, whatever the node stands for. No constant is equal to a list, so that such a node is a member
of no array of constants.

## Main definitions and results

* `Value.isConstant`, `Value.isAmong` — numbers, truth values and nil, and equality with one of
  them.
* `Value.isEqual_array_congr` and its companions: comparisons that see only the elements of a slot.
* `Value.holds_of_reduce_eq_list`: **a node that stands for a list against that list**, for every
  operator on sequences.
-/

namespace TreeQuery

open Fallible

variable {ν : Type} {t : Tree ν} {base : ν}

/-! ### Comparisons of elements -/

/-- A node that stands for a list has the elements of that list. -/
theorem Tree.elements?_of_reduce_eq_list {n : ν} {items : List (Slot ν)}
    (h : t.reduce (.node n) = .list items) :
    elements? (.node n) (t.reduce (.node n)) =
      elements? (.list items) (t.reduce (.list items)) := by
  rw [h]
  rfl

namespace Value

section Elements

variable {slot slot' : Slot ν}
  (h : Tree.elements? slot (t.reduce slot) = Tree.elements? slot' (t.reduce slot'))

include h

/-- Slots with the same elements are equal to the same arrays. -/
theorem isEqual_array_congr (values : List Value) :
    (array values).isEqual t base slot = (array values).isEqual t base slot' := by
  rw [isEqual, isEqual, h]

/-- Slots with the same elements differ from the same arrays. -/
theorem differs_array_congr (values : List Value) :
    (array values).differs t base slot = (array values).differs t base slot' := by
  rw [differs, differs, h]

/-- Slots with the same elements include the same values. -/
theorem holds_includes_congr (value : Value) :
    value.holds t base .includes slot = value.holds t base .includes slot' := by
  simp only [holds, compareBy, h]

/-- Slots with the same elements exclude the same values. -/
theorem holds_notIncludes_congr (value : Value) :
    value.holds t base .notIncludes slot = value.holds t base .notIncludes slot' := by
  simp only [holds, compareBy, h]

end Elements

/-! ### Constants -/

/-- Whether a value is a number, a truth value or nil. -/
def isConstant : Value → Bool
  | integer _ => true
  | float _ => true
  | boolean _ => true
  | nil => true
  | _ => false

/-- Whether a slot is equal to one of several constants. -/
def isAmong (t : Tree ν) (base : ν) (values : List Value) (slot : Slot ν) : Bool :=
  values.any fun value => value.isScalarEqual t base slot

/-- A slot is compared with a constant without failing. -/
theorem isEqual_of_isConstant {value : Value} (h : value.isConstant = true) (slot : Slot ν) :
    value.isEqual t base slot = .ok (value.isScalarEqual t base slot) := by
  cases value with
  | integer _ | float _ | boolean _ | nil => rfl
  | _ => simp [isConstant] at h

/-- **No constant is equal to what stands for a list.** -/
theorem isScalarEqual_of_reduce_eq_list {value : Value} (h : value.isConstant = true)
    {slot : Slot ν} {items : List (Slot ν)} (hlist : t.reduce slot = .list items) :
    value.isScalarEqual t base slot = false := by
  cases value with
  | integer _ | float _ =>
    have hnumber : (t.reduce slot).number? = none := by rw [hlist]; rfl
    simp [isScalarEqual, compareNumbers, hnumber]
  | boolean _ => simp [isScalarEqual, hlist, Slot.boolean?]
  | nil => simp [isScalarEqual, hlist, Slot.isAbsent]
  | _ => simp [isConstant] at h

variable {values : List Value} (hvalues : ∀ value ∈ values, value.isConstant = true)

include hvalues

/-- Whether a slot is equal to one of several constants is asked without failing. -/
theorem isEqualToAny_of_isConstant (slot : Slot ν) :
    isEqualToAny t base values slot = .ok (isAmong t base values slot) := by
  rw [isEqualToAny_eq_any]
  exact any_eq_ok fun value hvalue => isEqual_of_isConstant (hvalues value hvalue) slot

/-- Whether a slot differs from several constants is asked without failing. -/
theorem differsFromAll_of_isConstant (slot : Slot ν) :
    differsFromAll t base values slot = .ok !isAmong t base values slot := by
  have hdiffers : ∀ value ∈ values,
      value.differs t base slot = .ok !value.isScalarEqual t base slot := by
    intro value hvalue
    exact differs_eq_ok (isEqual_of_isConstant (hvalues value hvalue) slot)
  rw [differsFromAll_eq_all, all_eq_ok hdiffers, isAmong, List.not_any_eq_all_not]

/-- What stands for a list is equal to none of several constants. -/
theorem isAmong_of_reduce_eq_list {slot : Slot ν} {items : List (Slot ν)}
    (hlist : t.reduce slot = .list items) : isAmong t base values slot = false := by
  rw [isAmong, List.any_eq_false]
  intro value hvalue
  simp [isScalarEqual_of_reduce_eq_list (hvalues value hvalue) hlist]

/-- Of a list each element is asked for by itself. -/
theorem holds_memberOf_list_of_isConstant (items : List (Slot ν)) :
    (array values).holds t base .memberOf (.list items) =
      .ok (items.all (isAmong t base values)) := by
  rw [holds_memberOf_list]
  exact all_eq_ok fun item _ => isEqualToAny_of_isConstant hvalues item

/-- A list is no member of an array of constants if none of its elements is among them. -/
theorem holds_notMemberOf_list_of_isConstant (items : List (Slot ν)) :
    (array values).holds t base .notMemberOf (.list items) =
      .ok !items.any (isAmong t base values) := by
  rw [holds_notMemberOf_list, all_eq_ok fun item _ => differsFromAll_of_isConstant hvalues item,
    List.not_any_eq_all_not]

omit hvalues

/-! ### A node and the list that it stands for -/

/-- **A node that stands for a list against that list.** Equality with an array, difference from one
and both forms of inclusion do not tell the two apart. Membership does: the node is a member of no
array of constants, while the list is one when each of its elements is equal to one of the
constants, and is none when no element is. -/
theorem holds_of_reduce_eq_list {n : ν} {items : List (Slot ν)}
    (h : t.reduce (.node n) = .list items) (base : ν) :
    (∀ values, ∀ operator ∈ [Operator.equal, .notEqual],
      (array values).holds t base operator (.node n) =
        (array values).holds t base operator (.list items)) ∧
    (∀ value : Value, ∀ operator ∈ [Operator.includes, .notIncludes],
      value.holds t base operator (.node n) = value.holds t base operator (.list items)) ∧
    (∀ values, (∀ value ∈ values, isConstant value = true) →
      (array values).holds t base .memberOf (.node n) = .ok false ∧
      (array values).holds t base .memberOf (.list items) =
        .ok (items.all (isAmong t base values)) ∧
      (array values).holds t base .notMemberOf (.node n) = .ok true ∧
      (array values).holds t base .notMemberOf (.list items) =
        .ok !items.any (isAmong t base values)) := by
  have helements := Tree.elements?_of_reduce_eq_list h
  have hnode : ∀ others, Slot.node n ≠ .list others := by simp
  refine ⟨?_, ?_, ?_⟩
  · intro values operator hoperator
    simp only [List.mem_cons, List.not_mem_nil, or_false] at hoperator
    rcases hoperator with rfl | rfl
    · rw [holds_equal, holds_equal]
      exact isEqual_array_congr helements values
    · rw [holds_notEqual, holds_notEqual]
      exact differs_array_congr helements values
  · intro value operator hoperator
    simp only [List.mem_cons, List.not_mem_nil, or_false] at hoperator
    rcases hoperator with rfl | rfl
    · exact holds_includes_congr helements value
    · exact holds_notIncludes_congr helements value
  · intro values hvalues
    have hnone : isAmong t base values (.node n) = false := isAmong_of_reduce_eq_list hvalues h
    refine ⟨?_, holds_memberOf_list_of_isConstant hvalues items, ?_,
      holds_notMemberOf_list_of_isConstant hvalues items⟩
    · rw [holds_memberOf values hnode, isEqualToAny_of_isConstant hvalues, hnone]
    · rw [holds_notMemberOf values hnode, differsFromAll_of_isConstant hvalues, hnone,
        Bool.not_false]

end Value

/-- An array literal with one element, the literal of the number one. -/
def arrayOfOne : Arena where
  nodes := #[
    { kind := "int", source := "1", literal := some (.integer 1) },
    { kind := "array", source := "[1]", literal := some (.list [.node 0]),
      entries := [⟨none, .node 0⟩] }]
  held_lt := by decide

theorem reduce_arrayOfOne : arrayOfOne.tree.reduce (.node 1) = .list [.integer 1] := rfl

/-- The literal includes the number one and is equal to the array of it, but it is no member of that
array. -/
theorem Value.holds_of_reduce_eq_list_arrayOfOne :
    arrayOfOne.tree.reduce (.node 1) = .list [.integer 1] ∧
      (∀ value ∈ [integer 1], value.isConstant = true) ∧
      (array [integer 1]).holds arrayOfOne.tree 1 .equal (.node 1) = .ok true ∧
      (integer 1).holds arrayOfOne.tree 1 .includes (.node 1) = .ok true ∧
      (array [integer 1]).holds arrayOfOne.tree 1 .memberOf (.node 1) = .ok false ∧
      (array [integer 1]).holds arrayOfOne.tree 1 .memberOf (.list [.integer 1]) = .ok true := by
  have hconstant : ∀ value ∈ [integer 1], value.isConstant = true := by simp [isConstant]
  obtain ⟨hequal, hincludes, hmember⟩ := holds_of_reduce_eq_list reduce_arrayOfOne 1
  obtain ⟨hnode, hlist, -, -⟩ := hmember [integer 1] hconstant
  have harray : (array [integer 1]).holds arrayOfOne.tree 1 .equal (.list [.integer 1]) =
      .ok true := rfl
  have hone : (integer 1).holds arrayOfOne.tree 1 .includes (.list [.integer 1]) = .ok true := rfl
  exact ⟨reduce_arrayOfOne, hconstant, (hequal _ .equal (by simp)).trans harray,
    (hincludes _ .includes (by simp)).trans hone, hnode, hlist⟩

/-- **Membership is not asked of the elements of an array literal.** The literal of the array of the
number one is no member of an array with that number, though the list that it stands for is. -/
theorem Value.not_forall_holds_eq_of_reduce_eq_list :
    ¬ ∀ (a : Arena) (n base : Nat) (items : List (Slot Nat)),
      a.tree.reduce (.node n) = .list items → ∀ values : List Value,
        (∀ value ∈ values, value.isConstant = true) →
        ∀ operator ∈ [Operator.equal, .notEqual, .memberOf, .notMemberOf],
          (array values).holds a.tree base operator (.node n) =
            (array values).holds a.tree base operator (.list items) := by
  intro h
  have hsame := h arrayOfOne 1 1 [.integer 1] reduce_arrayOfOne [integer 1] (by simp [isConstant])
    .memberOf (by simp)
  have hnode : (array [integer 1]).holds arrayOfOne.tree 1 .memberOf (.node 1) = .ok false := rfl
  have hlist : (array [integer 1]).holds arrayOfOne.tree 1 .memberOf (.list [.integer 1]) =
      .ok true := rfl
  cases hnode.symm.trans (hsame.trans hlist)

end TreeQuery
