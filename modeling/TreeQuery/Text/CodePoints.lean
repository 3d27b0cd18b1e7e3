/-!
# Tables of code points

Two kinds of tables are looked up by code point. A character property is kept as a list of closed
ranges in ascending order. Membership stops at the first range that begins beyond the character, so
that the characters at the front of a table, where the common ones are, are found at once.

Case mappings move most characters by a distance that whole runs of an alphabet share, where
capital and small letters either stand in two blocks or alternate. A run therefore names its first
and last code point, the step from one member to the next, and the distance.

## Main definitions and results

* `Ranges.contains` — whether a code point has a property.
* `Ranges.contains_iff` — stopping early loses nothing.
* `CaseShift.apply` — where a case mapping moves a code point.
-/

namespace TreeQuery.Text

/-! ### Properties -/

/-- Closed ranges of code points, disjoint and in ascending order. -/
abbrev Ranges := List (Nat × Nat)

namespace Ranges

/-- Whether a code point lies in one of the ranges. -/
def contains : Ranges → Nat → Bool
  | [], _ => false
  | (first, last) :: rest, n =>
    if n < first then false else if n ≤ last then true else contains rest n

/-- Whether the ranges are in ascending order and disjoint, each beginning at or above
`start` and ending no earlier than it begins. -/
def ascendingFrom (start : Nat) : Ranges → Bool
  | [] => true
  | (first, last) :: rest =>
    decide (start ≤ first) && decide (first ≤ last) && ascendingFrom (last + 1) rest

/-- Every range begins at or above the place from which the ranges ascend. -/
theorem le_of_mem {ranges : Ranges} {start : Nat} (h : ascendingFrom start ranges = true) :
    ∀ r ∈ ranges, start ≤ r.1 := by
  induction ranges generalizing start with
  | nil => simp
  | cons range ranges ih =>
    simp only [ascendingFrom, Bool.and_eq_true, decide_eq_true_eq] at h
    obtain ⟨⟨hfirst, hlast⟩, hrest⟩ := h
    refine List.forall_mem_cons.mpr ⟨hfirst, fun r hr => ?_⟩
    have hbehind := ih hrest r hr
    omega

/-- On ascending ranges, stopping early loses nothing: **a code point is contained exactly when
some range of the list holds it**. -/
theorem contains_iff {ranges : Ranges} {start n : Nat} (h : ascendingFrom start ranges = true) :
    contains ranges n = true ↔ ∃ r ∈ ranges, r.1 ≤ n ∧ n ≤ r.2 := by
  induction ranges generalizing start with
  | nil => simp [contains]
  | cons range ranges ih =>
    simp only [ascendingFrom, Bool.and_eq_true, decide_eq_true_eq] at h
    obtain ⟨⟨hfirst, hlast⟩, hrest⟩ := h
    simp only [contains, List.mem_cons, or_and_right, exists_or, exists_eq_left]
    split
    · have hnone : ¬ ∃ r ∈ ranges, r.1 ≤ n ∧ n ≤ r.2 := by
        rintro ⟨r, hr, hle, -⟩
        have hbehind := le_of_mem hrest r hr
        omega
      simp only [hnone, or_false, Bool.false_eq_true, false_iff]
      omega
    · split
      · simp only [true_iff]
        exact .inl ⟨by omega, by assumption⟩
      · rw [ih hrest]
        refine (or_iff_right ?_).symm
        omega

end Ranges

/-! ### Case mappings -/

/-- A run of code points that a case mapping moves by one common distance. -/
structure CaseShift where
  /-- The first member of the run. -/
  first : Nat
  /-- The last member of the run. -/
  last : Nat
  /-- The distance from a member to the next. -/
  step : Nat
  /-- How far the mapping moves a member. -/
  distance : Int
  deriving DecidableEq

namespace CaseShift

/-- Whether a code point is a member of the run. -/
def covers (run : CaseShift) (n : Nat) : Bool :=
  decide (run.first ≤ n) && decide (n ≤ run.last) && (n - run.first) % run.step == 0

/-- Where the run moves a code point. -/
def target (run : CaseShift) (n : Nat) : Nat := ((n : Int) + run.distance).toNat

/-- Moves a code point by the first run that covers it. -/
def apply (runs : List CaseShift) (n : Nat) : Nat :=
  match runs.find? (·.covers n) with
  | some run => run.target n
  | none => n

end CaseShift

end TreeQuery.Text
