import Mathlib.Tactic.Ring
import Mathlib.Tactic.Positivity
import Mathlib.Algebra.Order.Ring.Nat
import TreeQuery.Number

/-!
# Rounding sees values only

A quotient of natural numbers, and so a decimal numeral, is rounded to a rank. This module shows
that the rank depends on the value alone: not on common factors, not on how many of the zeros of
a numeral stand among its digits, and not on the short cuts that rounding takes for extreme
exponents.

## Main results

* `Binary64.nearestRank_congr`: equal quotients have equal nearest ranks.
* `Binary64.nearestRank_units`: a finite rank is the rank nearest to its own magnitude.
* `Decimal.nearestRank_eq`: the short cuts change nothing.
* `Decimal.nearestRank_shift`: zeros may move from the digits into the exponent.
* `Binary64.nearestRank_shortest`: **the shortest numeral of a rank reads back to it**.
-/

namespace TreeQuery

namespace Binary64

/-! ### Quotients -/

/-- A common factor does not change how a quotient is rounded. -/
theorem roundHalfEven_mul_left {k : Nat} (hk : 0 < k) (num den : Nat) :
    roundHalfEven (k * num) (k * den) = roundHalfEven num den := by
  unfold roundHalfEven
  rw [Nat.mul_div_mul_left _ _ hk, Nat.mul_mod_mul_left, Nat.mul_left_comm 2 k]
  simp only [Nat.mul_lt_mul_left hk, beq_eq_decide, Nat.mul_left_cancel_iff hk]

/-- A whole number is its own rounding. -/
theorem roundHalfEven_mul_self {den : Nat} (hden : 0 < den) (n : Nat) :
    roundHalfEven (n * den) den = n := by
  unfold roundHalfEven
  simp [Nat.mul_div_cancel _ hden, hden]

/-- A common factor does not change the nearest rank. -/
theorem nearestRank_mul_left {k : Nat} (hk : 0 < k) (num den : Nat) :
    nearestRank (k * num) (k * den) = nearestRank num den := by
  unfold nearestRank
  dsimp only
  rw [Nat.mul_assoc k num, Nat.mul_div_mul_left _ _ hk, Nat.mul_assoc k den,
    roundHalfEven_mul_left hk]

/-- **Equal quotients have equal nearest ranks.** -/
theorem nearestRank_congr {num den num' den' : Nat} (hden : 0 < den) (hden' : 0 < den')
    (h : num * den' = num' * den) : nearestRank num den = nearestRank num' den' := by
  calc nearestRank num den = nearestRank (den' * num) (den' * den) :=
        (nearestRank_mul_left hden' num den).symm
    _ = nearestRank (den * num') (den * den') := by
        rw [Nat.mul_comm den' num, h, Nat.mul_comm num' den, Nat.mul_comm den' den]
    _ = nearestRank num' den' := nearestRank_mul_left hden num' den'

/-- One is a power of two of the least positive magnitude. The exponent stays behind a variable,
so that the power is never written out. -/
theorem unitsOfOne_eq : ∃ n, n = 1074 ∧ unitsOfOne = 2 ^ n := by
  have h : ∃ n, n = 1074 ∧ unitsOfOne = Nat.pow 2 n := ⟨_, rfl, by unfold unitsOfOne; rfl⟩
  obtain ⟨n, hn, hone⟩ := h
  exact ⟨n, hn, hone.trans Nat.pow_eq⟩

/-- One is not zero in multiples of the least positive magnitude. -/
theorem unitsOfOne_pos : 0 < unitsOfOne := by
  obtain ⟨n, -, hone⟩ := unitsOfOne_eq
  rw [hone]
  exact Nat.two_pow_pos n

/-! ### Ranks and their magnitudes -/

/-- A whole number of units is rounded to its first 53 binary digits, and its binade is counted
from its length. -/
theorem nearestRank_mul_unitsOfOne (n : Nat) :
    nearestRank n unitsOfOne =
      min ((Nat.log2 n - 52) * binade + roundHalfEven n (2 ^ (Nat.log2 n - 52)))
        infinityRank := by
  unfold nearestRank
  dsimp only
  rw [Nat.mul_div_cancel _ unitsOfOne_pos, Nat.mul_comm n, Nat.pow_eq,
    roundHalfEven_mul_left unitsOfOne_pos]

/-- From the third binade on, the binary length of a magnitude tells its binade. -/
theorem log2_units {rank : Nat} (h : 2 * binade ≤ rank) :
    Nat.log2 (units rank) = 52 + (rank / binade - 1) := by
  have hmod : rank % binade < binade := Nat.mod_lt _ (by decide)
  unfold units
  rw [if_neg (by omega), Nat.log2_eq_iff (by simp [binade]), Nat.pow_eq]
  constructor
  · rw [Nat.pow_add]
    exact Nat.mul_le_mul_right _ (by simp [binade])
  · rw [Nat.add_assoc, Nat.add_comm _ 1, ← Nat.add_assoc, Nat.pow_add]
    exact Nat.mul_lt_mul_of_pos_right (by simp only [binade] at *; omega) (by positivity)

/-- **A finite rank is the rank nearest to its own magnitude**, and so is that of infinity. -/
theorem nearestRank_units {rank : Nat} (h : rank ≤ infinityRank) :
    nearestRank (units rank) unitsOfOne = rank := by
  rw [nearestRank_mul_unitsOfOne]
  by_cases hsmall : rank < 2 * binade
  · have hlog : Nat.log2 rank - 52 = 0 := by
      by_cases hz : rank = 0
      · subst hz
        decide
      · have : Nat.log2 rank < 53 := (Nat.log2_lt hz).mpr (by simpa [binade] using hsmall)
        omega
    have hround := roundHalfEven_mul_self Nat.one_pos rank
    rw [Nat.mul_one] at hround
    rw [show units rank = rank from if_pos hsmall, hlog, Nat.pow_zero, hround]
    omega
  · have hlarge : 2 * binade ≤ rank := Nat.le_of_not_lt hsmall
    have hdiv : 2 ≤ rank / binade := (Nat.le_div_iff_mul_le (by decide)).mpr hlarge
    have hsplit := Nat.div_add_mod rank binade
    rw [log2_units hlarge, Nat.add_sub_cancel_left,
      show units rank = (rank % binade + binade) * 2 ^ (rank / binade - 1) from if_neg hsmall,
      roundHalfEven_mul_self (by positivity)]
    obtain ⟨q, hq⟩ : ∃ q, rank / binade = q + 1 := ⟨rank / binade - 1, by omega⟩
    rw [hq] at hsplit ⊢
    rw [Nat.add_sub_cancel]
    have : q * binade + (rank % binade + binade) = rank := by
      rw [Nat.mul_add, Nat.mul_one, Nat.mul_comm] at hsplit
      omega
    omega

/-! ### Extreme quotients -/

/-- Magnitudes from a large power of two on are rounded to infinity. -/
theorem nearestRank_of_large {num n : Nat} (hn : 1100 ≤ n) (h : 2 ^ n ≤ num) :
    nearestRank num 1 = infinityRank := by
  obtain ⟨m, hm, hone⟩ := unitsOfOne_eq
  have hpos : num * unitsOfOne ≠ 0 :=
    Nat.ne_of_gt (Nat.mul_pos (lt_of_lt_of_le (Nat.two_pow_pos n) h) unitsOfOne_pos)
  have hlog : n + m ≤ Nat.log2 (num * unitsOfOne) := by
    rw [Nat.le_log2 hpos, Nat.pow_add, ← hone]
    exact Nat.mul_le_mul_right _ h
  unfold nearestRank
  dsimp only
  rw [Nat.div_one]
  refine Nat.min_eq_right (le_trans ?_ (Nat.le_add_right _ _))
  exact Nat.mul_le_mul_right _ (by omega)

/-- Magnitudes below half of the least positive one are rounded to zero. -/
theorem nearestRank_of_small {num den : Nat} (h : 2 * (num * unitsOfOne) < den) :
    nearestRank num den = 0 := by
  have hdiv : num * unitsOfOne / den = 0 := Nat.div_eq_of_lt (by omega)
  have hmod : num * unitsOfOne % den = num * unitsOfOne := Nat.mod_eq_of_lt (by omega)
  simp [nearestRank, roundHalfEven, hdiv, hmod, h]

end Binary64

namespace Decimal

open Binary64

/-! ### Numerals -/

/-- The numerator of a numeral as a quotient of natural numbers. -/
def numerator (d : Decimal) : Nat := d.digits * 10 ^ d.exponent.toNat

/-- The denominator of a numeral as a quotient of natural numbers. -/
def denominator (d : Decimal) : Nat := 10 ^ (-d.exponent).toNat

/-- The denominator of a numeral is not zero. -/
theorem denominator_pos (d : Decimal) : 0 < d.denominator := Nat.pow_pos (by decide)

/-- A number is below the power of ten of its count of digits. -/
theorem lt_pow_width (n : Nat) : n < 10 ^ width n :=
  (Nat.length_toDigits_le_iff (by decide) Nat.length_toDigits_pos).mp (Nat.le_refl _)

/-- A power of two with up to three times the exponent is at most the power of ten. -/
theorem two_pow_le_ten_pow {m n : Nat} (h : m ≤ 3 * n) : 2 ^ m ≤ 10 ^ n :=
  calc 2 ^ m ≤ 2 ^ (3 * n) := Nat.pow_le_pow_right (by decide) h
    _ = 8 ^ n := Nat.pow_mul ..
    _ ≤ 10 ^ n := Nat.pow_le_pow_left (by decide) n

/-- A numeral with a large exponent that is not zero is large. -/
theorem two_pow_le_numerator {d : Decimal} (h : d.digits ≠ 0) :
    2 ^ (3 * d.exponent.toNat) ≤ d.numerator :=
  (two_pow_le_ten_pow (Nat.le_refl _)).trans (Nat.le_mul_of_pos_left _ (Nat.pos_of_ne_zero h))

/-- A numeral whose first digit stands far behind the point is below half of the least positive
magnitude. -/
theorem numerator_lt_denominator {d : Decimal} (h : d.exponent + width d.digits < -400) :
    2 * (d.numerator * unitsOfOne) < d.denominator := by
  obtain ⟨m, hm, hone⟩ := unitsOfOne_eq
  obtain ⟨e, he⟩ : ∃ e : Nat, (-d.exponent).toNat = width d.digits + e ∧ 400 ≤ e :=
    ⟨(-d.exponent).toNat - width d.digits, by omega⟩
  have hexp : d.exponent.toNat = 0 := by omega
  calc 2 * (d.numerator * unitsOfOne) = d.digits * 2 ^ (m + 1) := by
        rw [numerator, hexp, hone]; ring
    _ < 10 ^ width d.digits * 10 ^ e :=
        Nat.mul_lt_mul_of_lt_of_le (lt_pow_width _) (two_pow_le_ten_pow (by omega))
          (Nat.pow_pos (by decide))
    _ = d.denominator := by rw [denominator, he.1, Nat.pow_add]

/-- The rank nearest to a numeral is that nearest to its value. **The short cuts for extreme
exponents change nothing.** -/
theorem nearestRank_eq (d : Decimal) :
    d.nearestRank = Binary64.nearestRank d.numerator d.denominator := by
  unfold nearestRank
  split
  · rename_i hzero
    rw [numerator, hzero, Nat.zero_mul]
    exact (nearestRank_of_small (by simpa using d.denominator_pos)).symm
  split
  · rename_i hne hlarge
    have hden : d.denominator = 1 := by
      rw [denominator, show (-d.exponent).toNat = 0 by omega, Nat.pow_zero]
    rw [hden]
    exact (nearestRank_of_large (by omega) (two_pow_le_numerator hne)).symm
  split
  · rename_i hsmall
    exact (nearestRank_of_small (numerator_lt_denominator hsmall)).symm
  split
  · rename_i hexp
    rw [numerator, denominator, show (-d.exponent).toNat = 0 by omega, Nat.pow_zero, Nat.pow_eq]
  · rename_i hexp
    rw [numerator, denominator, show d.exponent.toNat = 0 by omega, Nat.pow_zero, Nat.mul_one,
      Nat.pow_eq]

/-- Numerals of equal value have equal nearest ranks. -/
theorem nearestRank_congr {d d' : Decimal}
    (h : d.numerator * d'.denominator = d'.numerator * d.denominator) :
    d.nearestRank = d'.nearestRank := by
  rw [nearestRank_eq, nearestRank_eq,
    Binary64.nearestRank_congr d.denominator_pos d'.denominator_pos h]

/-- **Zeros at the end of the digits may move into the exponent.** -/
theorem nearestRank_shift (digits : Nat) (exponent : Int) (n : Nat) :
    nearestRank ⟨digits * 10 ^ n, exponent - n⟩ = nearestRank ⟨digits, exponent⟩ := by
  apply nearestRank_congr
  simp only [numerator, denominator, Nat.mul_assoc, ← Nat.pow_add]
  congr 2
  omega

/-- Moving zeros into the exponent does not change the nearest rank. -/
theorem nearestRank_trimZeros (fuel : Nat) (d : Decimal) :
    (trimZeros fuel d).nearestRank = d.nearestRank := by
  fun_induction trimZeros fuel d with
  | case1 => rfl
  | case2 fuel d h ih =>
    have hdigits : d.digits / 10 * 10 ^ 1 = d.digits := by omega
    have hexp : d.exponent + 1 - ((1 : Nat) : Int) = d.exponent := by omega
    rw [ih, ← nearestRank_shift (d.digits / 10) (d.exponent + 1) 1, hdigits, hexp]
  | case3 => rfl

end Decimal

namespace Binary64

/-! ### Shortest numerals -/

/-- What is chosen for a count of digits reads back. -/
theorem readsBack_of_nearestOfCount? {rank count : Nat} {d : Decimal}
    (h : nearestOfCount? rank count = some d) : readsBack rank d = true :=
  passes_of_nearestPassing? h

/-- Five-fold digits at a negative exponent are halves. -/
theorem nearestRank_mul_five_pow (u n : Nat) :
    Decimal.nearestRank ⟨u * 5 ^ n, -n⟩ = nearestRank u (2 ^ n) := by
  rw [Decimal.nearestRank_eq]
  refine nearestRank_congr (Decimal.denominator_pos _) (Nat.two_pow_pos n) ?_
  simp only [Decimal.numerator, Decimal.denominator]
  rw [show (-(n : Int)).toNat = 0 by omega, show (-(-(n : Int))).toNat = n by omega, Nat.pow_zero,
    Nat.mul_one, Nat.mul_assoc, ← Nat.mul_pow]

/-- The exact digits of a rank are its units with a power of five. The exponent stays behind a
variable. -/
theorem exactDigits_eq (rank : Nat) : ∃ n, n = 1074 ∧ exactDigits rank = units rank * 5 ^ n := by
  have h : ∃ n, n = 1074 ∧ exactDigits rank = units rank * Nat.pow 5 n :=
    ⟨_, rfl, by unfold exactDigits; rfl⟩
  obtain ⟨n, hn, hdigits⟩ := h
  exact ⟨n, hn, by rw [hdigits, Nat.pow_eq]⟩

/-- The exact expansion of a magnitude reads back. -/
theorem nearestRank_exactDecimal {rank : Nat} (h : rank ≤ infinityRank) :
    (exactDecimal rank).nearestRank = rank := by
  obtain ⟨n, hn, hone⟩ := unitsOfOne_eq
  obtain ⟨m, hm, hdigits⟩ := exactDigits_eq rank
  obtain rfl : m = n := hm.trans hn.symm
  have hexp : (-1074 : Int) = -m := by omega
  rw [exactDecimal, hdigits, hexp, nearestRank_mul_five_pow, ← hone]
  exact nearestRank_units h

/-- **The shortest numeral of a rank reads back to it.** -/
theorem nearestRank_shortest {rank : Nat} (h : rank ≤ infinityRank) :
    (shortest rank).nearestRank = rank := by
  unfold shortest
  split
  · rename_i hzero
    exact hzero.symm
  · rw [Decimal.trim, Decimal.nearestRank_trimZeros]
    cases hfind : List.findSome? (nearestOfCount? rank) ((List.range 17).map (· + 1)) with
    | none => exact nearestRank_exactDecimal h
    | some d =>
      obtain ⟨count, -, hcount⟩ := List.exists_of_findSome?_eq_some hfind
      exact beq_iff_eq.mp (readsBack_of_nearestOfCount? hcount)

end Binary64

end TreeQuery
