import TreeQuery.Fallible
import TreeQuery.Number

/-!
# Numerals of documents

A numeral of a document is read as an integer where that is possible, and else as a double. The
double is not always the nearest one: **a significand of 64 bits is rounded first and scaled
after**, digits that do not fit into it only shift the point, and both steps round.

## Main definitions

* `Numeral` — the parts of a numeral.
* `readNumeral?` — the numeral at the front of a text.
* `Numeral.number?` — its number, unless it is too large.
-/

namespace TreeQuery.Json

/-- The parts of a numeral. -/
structure Numeral where
  /-- Whether it has a minus. -/
  negative : Bool
  /-- The digits before the point. -/
  whole : List Char
  /-- The digits behind the point, none if there is no point. -/
  fraction : List Char
  /-- The exponent, if there is one. -/
  exponent : Option Int

/-! ### Reading -/

/-- Splits off a minus and says whether there was one. -/
def splitMinus : List Char → Bool × List Char
  | '-' :: rest => (true, rest)
  | text => (false, text)

/-- Reads what may follow the whole digits: nothing, or a point with at least one digit. -/
def readFraction? : List Char → Option (List Char × List Char)
  | '.' :: rest =>
    if (rest.takeWhile Char.isDigit).isEmpty then none
    else some (rest.takeWhile Char.isDigit, rest.dropWhile Char.isDigit)
  | text => some ([], text)

/-- Reads what may follow the fraction: nothing, or a mark with a signed run of digits. -/
def readScale? : List Char → Option (Option Int × List Char)
  | c :: rest =>
    if c = 'e' ∨ c = 'E' then
      let (negative, digits) := splitSign rest
      if (digits.takeWhile Char.isDigit).isEmpty then none
      else
        let size : Int := digitsValue (digits.takeWhile Char.isDigit)
        some (some (if negative then -size else size), digits.dropWhile Char.isDigit)
    else some (none, c :: rest)
  | [] => some (none, [])

/-- Reads the numeral at the front of a text. A zero stands in front of other digits only where it
is the whole part. -/
def readNumeral? (text : List Char) : Option (Numeral × List Char) := do
  let (negative, body) := splitMinus text
  let whole := body.takeWhile Char.isDigit
  if whole.isEmpty ∨ (whole.head? = some '0' ∧ 1 < whole.length) then none
  let (fraction, behind) ← readFraction? (body.dropWhile Char.isDigit)
  let (exponent, behind) ← readScale? behind
  return (⟨negative, whole, fraction, exponent⟩, behind)

/-! ### Values -/

/-- Appends digits to a significand as long as it fits into 64 bits, and leaves the others. -/
def appendFitting (significand : Nat) : List Char → Nat × List Char
  | [] => (significand, [])
  | c :: rest =>
    let next := significand * 10 + (c.toNat - '0'.toNat)
    if next < 0x10000000000000000 then appendFitting next rest else (significand, c :: rest)

/-- The double nearest to a power of ten. -/
def powerOfTen (exponent : Nat) : Binary64 := Binary64.ofInt (Nat.pow 10 exponent)

/-- Divides by a power of ten, by at most `10 ^ 308` at a time. -/
def scaleDown (x : Binary64) (exponent : Nat) : Binary64 :=
  if exponent ≤ 308 then x.div (powerOfTen exponent)
  else if x.rank = 0 then x
  else scaleDown (x.div (powerOfTen 308)) (exponent - 308)
termination_by exponent

/-- Multiplies by a power of ten, unless the result is too large. -/
def scaleUp? (x : Binary64) (exponent : Nat) : Option Binary64 :=
  if exponent ≤ 308 then
    let scaled := x.mul (powerOfTen exponent)
    if scaled.isInfinite then none else some scaled
  else if x.rank = 0 then some x
  else none

namespace Numeral

/-- The significand, and the power of ten of its last digit without the exponent. -/
def significand (numeral : Numeral) : Nat × Int :=
  let (whole, shifted) := appendFitting 0 numeral.whole
  let (all, dropped) := appendFitting whole numeral.fraction
  (all, (shifted.length : Int) - (numeral.fraction.length - dropped.length))

/-- The double of a numeral, unless it is too large. -/
def binary64? (numeral : Numeral) : Option Binary64 :=
  let (digits, shift) := numeral.significand
  let exponent := shift + numeral.exponent.getD 0
  let rounded := Binary64.ofInt digits
  let scaled :=
    if 0 ≤ exponent then scaleUp? rounded exponent.toNat
    else some (scaleDown rounded (-exponent).toNat)
  scaled.map fun x => if numeral.negative then x.neg else x

/-- The integer of a numeral without fraction and exponent. **The negative zero is no integer.** -/
def int64? (numeral : Numeral) : Option Int64 :=
  if numeral.fraction.isEmpty && numeral.exponent.isNone then
    let size : Int := digitsValue numeral.whole
    if numeral.negative then if size = 0 then none else toInt64? (-size)
    else toInt64? size
  else none

/-- The number of a numeral, unless it is too large. -/
def number? (numeral : Numeral) : Option Number :=
  match numeral.int64? with
  | some value => some (.integer value)
  | none => numeral.binary64?.map Number.float

end Numeral

/-! ### Progress -/

/-- Reading a fraction leaves no more than there was. -/
theorem readFraction?_length {text digits behind : List Char}
    (h : readFraction? text = some (digits, behind)) : behind.length ≤ text.length := by
  unfold readFraction? at h
  split at h
  · split at h
    · cases h
    · cases h
      exact Nat.le_succ_of_le (List.dropWhile_suffix _).length_le
  · cases h
    exact Nat.le_refl _

/-- Taking off a sign leaves no more than there was. -/
theorem splitSign_length (text : List Char) : (splitSign text).2.length ≤ text.length := by
  unfold splitSign
  split <;> simp

/-- Reading an exponent leaves no more than there was. -/
theorem readScale?_length {text behind : List Char} {exponent : Option Int}
    (h : readScale? text = some (exponent, behind)) : behind.length ≤ text.length := by
  unfold readScale? at h
  split at h
  · rename_i c rest
    split at h
    · dsimp only at h
      split at h
      · cases h
      · cases h
        have h₁ := (List.dropWhile_suffix (l := (splitSign rest).2) Char.isDigit).length_le
        have h₂ := splitSign_length rest
        simp only [List.length_cons]
        omega
    · cases h
      exact Nat.le_refl _
  · cases h
    exact Nat.le_refl _

/-- Taking off a minus sign leaves no more than there was. -/
theorem splitMinus_length (text : List Char) : (splitMinus text).2.length ≤ text.length := by
  unfold splitMinus
  split <;> simp

/-- A numeral takes at least one character. -/
theorem readNumeral?_length {text behind : List Char} {numeral : Numeral}
    (h : readNumeral? text = some (numeral, behind)) : behind.length < text.length := by
  unfold readNumeral? at h
  simp only [Option.bind_eq_bind] at h
  split at h
  · cases h
  · rename_i hwhole
    obtain ⟨⟨fraction, middle⟩, hfraction, h⟩ := Option.bind_eq_some_iff.1 h
    obtain ⟨⟨exponent, last⟩, hscale, h⟩ := Option.bind_eq_some_iff.1 h
    cases h
    have h₁ := readFraction?_length hfraction
    have h₂ := readScale?_length hscale
    have h₃ := splitMinus_length text
    have h₄ := congrArg List.length
      (List.takeWhile_append_dropWhile (p := Char.isDigit) (l := (splitMinus text).2))
    have h₅ : 0 < ((splitMinus text).2.takeWhile Char.isDigit).length := by
      rw [List.length_pos_iff]
      intro hnil
      exact hwhole (Or.inl (by rw [hnil]; rfl))
    rw [List.length_append] at h₄
    dsimp only at h₁ h₂ ⊢
    omega

end TreeQuery.Json
