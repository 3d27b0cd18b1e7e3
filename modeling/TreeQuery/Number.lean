import TreeQuery.Number.Numeral

/-!
# Numbers and their text

A number of a tree or of a query is a 64-bit integer or a double. **Two integers compare exactly; as
soon as one side is a double, both are compared as doubles**, so an integer beyond `2 ^ 53` is first
rounded to its nearest double. A not-a-number compares with nothing.

A finite double is written with **the fewest digits that read back to it**. For each count of
digits the numeral is one of the two neighbours of the exact value on the grid of numerals of
that many digits; the first count at which a neighbour reads back wins, of two neighbours the
nearer, and of two equally near the larger. Reading back is tested with the reader itself, so that a
shortest numeral reads back by construction, and the exact decimal expansion, which always reads
back, stands behind the test.

## Main definitions

* `Binary64.shortest` — the numeral of a rank.
* `Binary64.plainText` — positional notation throughout, without a needless point.
* `Binary64.literalText` — positional with a point in the middle range, else with an exponent.
* `Number.compare?` — how two numbers compare.
-/

namespace TreeQuery

/-! ### Shortest decimal numerals -/

namespace Decimal

/-- Moves the zeros at the end of the digits into the exponent; `fuel` bounds how many. -/
def trimZeros : (fuel : Nat) → Decimal → Decimal
  | 0, d => d
  | fuel + 1, d =>
    if d.digits ≠ 0 ∧ d.digits % 10 = 0 then trimZeros fuel ⟨d.digits / 10, d.exponent + 1⟩ else d

/-- The same numeral with no zero at the end of its digits. -/
def trim (d : Decimal) : Decimal := trimZeros (width d.digits) d

/-- The digits of a numeral as text. -/
def digitText (d : Decimal) : List Char := Nat.toDigits 10 d.digits

/-- The power of ten of the first digit. -/
def leadingExponent (d : Decimal) : Int := d.exponent + width d.digits - 1

/-- Positional notation. With `keepPoint`, a whole number ends in a point and a zero. -/
def positional (keepPoint : Bool) (d : Decimal) : List Char :=
  let digits := d.digitText
  if 0 ≤ d.exponent then
    digits ++ List.replicate d.exponent.toNat '0' ++ (if keepPoint then ['.', '0'] else [])
  else
    let places := (-d.exponent).toNat
    if places < digits.length then
      digits.take (digits.length - places) ++ '.' :: digits.drop (digits.length - places)
    else '0' :: '.' :: (List.replicate (places - digits.length) '0' ++ digits)

/-- Exponent notation: one digit, a point before any others, and the exponent of the first. -/
def scientific (d : Decimal) : List Char :=
  let mantissa :=
    match d.digitText with
    | first :: second :: rest => first :: '.' :: second :: rest
    | digits => digits
  mantissa ++ 'e' :: integerSpelling d.leadingExponent

end Decimal

namespace Binary64

/-- The exact magnitude of a rank in multiples of `10 ^ -1074`. -/
def exactDigits (rank : Nat) : Nat := units rank * Nat.pow 5 1074

/-- The exact magnitude of a rank as a numeral. -/
def exactDecimal (rank : Nat) : Decimal := ⟨exactDigits rank, -1074⟩

/-- Whether a numeral reads back to a rank. -/
def readsBack (rank : Nat) (d : Decimal) : Bool := d.nearestRank == rank

/-- Of two neighbours the one that passes a test, and of two that pass the nearer. -/
def nearestPassing? (test : Decimal → Bool) (below above : Decimal) (belowIsNearer : Bool) :
    Option Decimal :=
  match test below, test above with
  | true, true => some (if belowIsNearer then below else above)
  | true, false => some below
  | false, true => some above
  | false, false => none

/-- The neighbour that is chosen passes the test. -/
theorem passes_of_nearestPassing? {test : Decimal → Bool} {below above d : Decimal}
    {belowIsNearer : Bool} (h : nearestPassing? test below above belowIsNearer = some d) :
    test d = true := by
  unfold nearestPassing? at h
  split at h
  · split at h <;> simp_all
  · simp_all
  · simp_all
  · cases h

/-- The numeral of `count` digits that is nearest to the magnitude of a rank among those that
read back to it, if there is one. -/
def nearestOfCount? (rank count : Nat) : Option Decimal :=
  let exact := exactDigits rank
  let dropped := Decimal.width exact - count
  let grid := Nat.pow 10 dropped
  nearestPassing? (readsBack rank) ⟨exact / grid, (dropped : Int) - 1074⟩
    ⟨exact / grid + 1, (dropped : Int) - 1074⟩ (decide (2 * (exact % grid) < grid))

/-- The shortest numeral that reads back to a rank. -/
def shortest (rank : Nat) : Decimal :=
  if rank = 0 then ⟨0, 0⟩
  else
    let counts := (List.range 17).map (· + 1)
    ((counts.findSome? (nearestOfCount? rank)).getD (exactDecimal rank)).trim

/-- Text for a number that is not finite, and the sign for one that is. -/
def signedText (x : Binary64) (finite : Nat → List Char) : String :=
  if x.isNaN then "NaN"
  else
    let magnitude := if x.isInfinite then "inf".toList else finite x.rank
    String.ofList (if x.negative then '-' :: magnitude else magnitude)

/-- Positional notation, whatever the magnitude; whole numbers carry no point. -/
def plainText (x : Binary64) : String :=
  x.signedText fun rank => (shortest rank).positional false

/-- The notation of a literal: positional and with a point from `10 ^ -4` up to below
`10 ^ 16`, and for zero; with an exponent outside. -/
def literalText (x : Binary64) : String :=
  x.signedText fun rank =>
    let d := shortest rank
    if -4 ≤ d.leadingExponent ∧ d.leadingExponent < 16 then d.positional true
    else d.scientific

end Binary64

/-! ### Integers and doubles -/

/-- A 64-bit integer or a double. -/
inductive Number where
  /-- An integer. -/
  | integer (value : Int64)
  /-- A double. -/
  | float (value : Binary64)
  deriving DecidableEq

namespace Number

/-- The double nearest to a number. -/
def toBinary64 : Number → Binary64
  | integer value => Binary64.ofInt value.toInt
  | float value => value

/-- How two numbers compare, if they do. -/
def compare? : Number → Number → Option Ordering
  | integer a, integer b => some (compare a.toInt b.toInt)
  | a, b => a.toBinary64.compare? b.toBinary64

/-- Equality of values. -/
def equals (a b : Number) : Bool := a.compare? b == some .eq

/-- The strict order of values. -/
def less (a b : Number) : Bool := a.compare? b == some .lt

/-- The order of values with equality; not the negation of the reverse strict order, because
a not-a-number is in neither. -/
def lessOrEqual (a b : Number) : Bool := a.less b || a.equals b

end Number

end TreeQuery
