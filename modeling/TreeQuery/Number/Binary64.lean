/-!
# Double-precision numbers

A `Binary64` is a sign together with the **rank** of its magnitude: the place of the magnitude
in the ascending list of all magnitudes. Zero has rank `0`, the subnormal and normal numbers
follow in order, infinity has rank `Binary64.infinityRank`, and every larger rank is a
not-a-number. Written in binary behind the sign, the rank is the usual interchange format, so
`Binary64.ofBits` and `Binary64.toBits` only split off and put back the sign.

The magnitude of a finite number is `Binary64.units rank / 2 ^ 1074`, with `units` a natural
number, so that every comparison and every rounding is exact integer arithmetic and can be
reasoned about.

## Main definitions

* `Binary64.compare?` — the order of the numbers, undefined on a not-a-number.
* `Binary64.ofRatio` — the double nearest to a quotient, a half going to the even rank.
* `Binary64.mul`, `Binary64.div` — products and quotients, rounded once.
-/

namespace TreeQuery

/-- A double-precision number: its sign and the rank of its magnitude. -/
structure Binary64 where
  /-- Whether the sign is a minus; zeros and not-a-numbers have a sign too. -/
  negative : Bool
  /-- The place of the magnitude among all magnitudes in ascending order. -/
  rank : Nat
  /-- The rank fits the 63 bits that the sign leaves. -/
  rank_lt : rank < 0x8000000000000000
  deriving DecidableEq

namespace Binary64

/-- How many ranks there are from a power of two up to below the next one, `2 ^ 52`. -/
def binade : Nat := 0x10000000000000

/-- The rank of infinity, the least rank with all exponent bits set. -/
def infinityRank : Nat := 2047 * binade

/-- The number of a sign and a rank; ranks beyond infinity are clipped to it. -/
def ofRank (negative : Bool) (rank : Nat) : Binary64 where
  negative
  rank := min rank infinityRank
  rank_lt := Nat.lt_of_le_of_lt (Nat.min_le_right _ _) (by decide)

/-- The number of a 64-bit pattern. -/
def ofBits (bits : Nat) : Binary64 where
  negative := decide (0x8000000000000000 ≤ bits % 0x10000000000000000)
  rank := bits % 0x8000000000000000
  rank_lt := Nat.mod_lt _ (by decide)

/-- The 64-bit pattern of a number. -/
def toBits (x : Binary64) : Nat := (if x.negative then 0x8000000000000000 else 0) + x.rank

/-- A not-a-number. -/
def nan : Binary64 := ⟨false, infinityRank + 1, by decide⟩

/-- Whether the number is a not-a-number. -/
def isNaN (x : Binary64) : Bool := decide (infinityRank < x.rank)

/-- Whether the number is an infinity of either sign. -/
def isInfinite (x : Binary64) : Bool := x.rank == infinityRank

/-- The same magnitude with the other sign. -/
def neg (x : Binary64) : Binary64 := { x with negative := !x.negative }

/-! ### Order -/

/-- The signed rank. It orders the numbers as their values do and identifies the two zeros. -/
def signedRank (x : Binary64) : Int := if x.negative then -(x.rank : Int) else x.rank

/-- How two numbers compare by value; **a not-a-number compares with nothing**, itself
included, and the two zeros are equal. -/
def compare? (x y : Binary64) : Option Ordering :=
  if x.isNaN || y.isNaN then none else some (compare x.signedRank y.signedRank)

/-- Equality of values: the two zeros are equal, a not-a-number equals nothing. -/
instance : BEq Binary64 := ⟨fun x y => x.compare? y == some .eq⟩

/-! ### Magnitudes and rounding -/

/-- The magnitude of a rank, in multiples of `2 ^ -1074`, the least positive magnitude.
Ranks of the first two binades are their own multiple; from there each further binade doubles the
distance between neighbours. -/
def units (rank : Nat) : Nat :=
  if rank < 2 * binade then rank
  else (rank % binade + binade) * Nat.pow 2 (rank / binade - 1)

/-- The magnitude of one, `2 ^ 1074` times the least positive magnitude. -/
def unitsOfOne : Nat := Nat.pow 2 1074

/-- The natural number nearest to `num / den`, a half going to the even neighbour. -/
def roundHalfEven (num den : Nat) : Nat :=
  let quotient := num / den
  let twice := 2 * (num % den)
  if twice < den || (twice == den && quotient % 2 == 0) then quotient else quotient + 1

/-- The rank nearest to the magnitude `num / den`; a half goes to the even rank, and what
lies half a step or more beyond the largest finite magnitude goes to infinity. -/
def nearestRank (num den : Nat) : Nat :=
  let scaled := num * unitsOfOne
  let shift := Nat.log2 (scaled / den) - 52
  min (shift * binade + roundHalfEven scaled (den * Nat.pow 2 shift)) infinityRank

/-- The number nearest to `± num / den`. -/
def ofRatio (negative : Bool) (num den : Nat) : Binary64 := ofRank negative (nearestRank num den)

/-- The number nearest to an integer. -/
def ofInt (n : Int) : Binary64 := ofRatio (decide (n < 0)) n.natAbs 1

/-- The product of two finite numbers, rounded to the nearest. -/
def mul (x y : Binary64) : Binary64 :=
  ofRatio (x.negative != y.negative) (units x.rank * units y.rank) (unitsOfOne * unitsOfOne)

/-- The quotient of two finite numbers, rounded to the nearest. -/
def div (x y : Binary64) : Binary64 :=
  ofRatio (x.negative != y.negative) (units x.rank) (units y.rank)

/-! ### Small facts -/

/-- **Every 64-bit pattern is kept**: that of a not-a-number and the sign of a zero too. -/
theorem toBits_ofBits {bits : Nat} (h : bits < 0x10000000000000000) :
    (ofBits bits).toBits = bits := by
  simp only [toBits, ofBits, decide_eq_true_eq]
  split <;> omega

/-- Two doubles do not compare exactly when one of them is a not-a-number. -/
theorem compare?_eq_none_iff {x y : Binary64} :
    x.compare? y = none ↔ x.isNaN = true ∨ y.isNaN = true := by
  unfold compare?
  cases x.isNaN <;> cases y.isNaN <;> simp

/-- Two doubles are equal exactly when neither is a not-a-number and their signed ranks are the
same. -/
theorem beq_iff {x y : Binary64} :
    (x == y) = true ↔ x.isNaN = false ∧ y.isNaN = false ∧ x.signedRank = y.signedRank := by
  change (x.compare? y == some .eq) = true ↔ _
  unfold compare?
  cases x.isNaN <;> cases y.isNaN <;> simp

end Binary64

end TreeQuery
