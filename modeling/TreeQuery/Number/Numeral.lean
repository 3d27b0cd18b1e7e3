import TreeQuery.Number.Binary64

/-!
# Numerals

Integers are read into 64 bits and refused when they do not fit; fractions are read into the
nearest double. Both readers accept or refuse the whole text: they never stop early.

## Main definitions

* `readInt64?` — a signed integer in a given radix; `integerSpelling` writes one in decimal.
* `Decimal` — a decimal numeral `digits * 10 ^ exponent`, with its nearest double.
* `readBinary64?` — a decimal fraction with an optional exponent, an infinity or a not-a-number.
-/

namespace TreeQuery

/-! ### Integers -/

/-- The value of a digit: decimal digits, then the letters of either case from ten on. -/
def digitValue? (c : Char) : Option Nat :=
  if '0' ≤ c ∧ c ≤ '9' then some (c.toNat - '0'.toNat)
  else if 'a' ≤ c ∧ c ≤ 'z' then some (c.toNat - 'a'.toNat + 10)
  else if 'A' ≤ c ∧ c ≤ 'Z' then some (c.toNat - 'A'.toNat + 10)
  else none

/-- Reads digits of a radix behind the value read so far. -/
def readDigits? (radix : Nat) (value : Nat) : List Char → Option Nat
  | [] => some value
  | c :: rest =>
    match digitValue? c with
    | some d => if d < radix then readDigits? radix (value * radix + d) rest else none
    | none => none

/-- Reads a non-empty run of digits of a radix. -/
def readNat? (radix : Nat) (text : List Char) : Option Nat :=
  if text.isEmpty then none else readDigits? radix 0 text

/-- Splits off one leading sign and says whether it is a minus. -/
def splitSign : List Char → Bool × List Char
  | '-' :: rest => (true, rest)
  | '+' :: rest => (false, rest)
  | text => (false, text)

/-- The 64-bit integer of a value, if it has one. -/
def toInt64? (n : Int) : Option Int64 :=
  if -0x8000000000000000 ≤ n ∧ n < 0x8000000000000000 then some (Int64.ofInt n) else none

/-- Reads an integer: an optional sign and digits of the radix. **Values beyond 64 bits are
refused**, never wrapped. -/
def readInt64? (radix : Nat) (text : List Char) : Option Int64 :=
  let (negative, digits) := splitSign text
  match readNat? radix digits with
  | some n => toInt64? (if negative then -(n : Int) else n)
  | none => none

/-- Writes an integer: a minus if it is negative, and its decimal digits. -/
def integerSpelling (n : Int) : List Char :=
  if n < 0 then '-' :: Nat.toDigits 10 n.natAbs else Nat.toDigits 10 n.natAbs

/-! ### Fractions -/

/-- The decimal numeral `digits * 10 ^ exponent`. -/
structure Decimal where
  /-- The significant digits as one number. -/
  digits : Nat
  /-- The power of ten of the last digit. -/
  exponent : Int
  deriving DecidableEq

namespace Decimal

/-- How many digits a number has in decimal. -/
def width (n : Nat) : Nat := (Nat.toDigits 10 n).length

/-- The rank of the double nearest to the numeral. Numerals too large or too small for any
double are decided by their exponent alone, so that an exponent never has to be written out. -/
def nearestRank (d : Decimal) : Nat :=
  if d.digits = 0 then 0
  else if d.exponent > 400 then Binary64.infinityRank
  else if d.exponent + width d.digits < -400 then 0
  else if 0 ≤ d.exponent then Binary64.nearestRank (d.digits * Nat.pow 10 d.exponent.toNat) 1
  else Binary64.nearestRank d.digits (Nat.pow 10 (-d.exponent).toNat)

end Decimal

/-- The longest leading run of decimal digits, and the rest. -/
def spanDigits (text : List Char) : List Char × List Char := text.span Char.isDigit

/-- The value of a run of decimal digits; the empty run is zero. -/
def digitsValue (digits : List Char) : Nat := (readDigits? 10 0 digits).getD 0

/-- Reads what may follow the digits of a fraction: nothing, or an exponent mark with an
optionally signed run of digits. -/
def readExponent? : List Char → Option Int
  | [] => some 0
  | c :: rest =>
    if c = 'e' ∨ c = 'E' then
      let (negative, digits) := splitSign rest
      match readNat? 10 digits with
      | some n => some (if negative then -(n : Int) else n)
      | none => none
    else none

/-- Reads an unsigned fraction: digits around an optional point, at least one in all, and an
optional exponent. -/
def readDecimal? (text : List Char) : Option Decimal :=
  let (whole, rest) := spanDigits text
  let (fraction, rest) :=
    match rest with
    | '.' :: more => spanDigits more
    | _ => ([], rest)
  if whole.isEmpty && fraction.isEmpty then none
  else
    match readExponent? rest with
    | some exponent => some ⟨digitsValue (whole ++ fraction), exponent - fraction.length⟩
    | none => none

/-- Reads a double: an optional sign, then a fraction, `inf`, `infinity` or `nan`; the words may
be written in either case. -/
def readBinary64? (text : List Char) : Option Binary64 :=
  let (negative, body) := splitSign text
  let word := body.map Char.toLower
  if word = "inf".toList ∨ word = "infinity".toList then
    some (Binary64.ofRank negative Binary64.infinityRank)
  else if word = "nan".toList then some Binary64.nan
  else (readDecimal? body).map fun d => Binary64.ofRank negative d.nearestRank

end TreeQuery
