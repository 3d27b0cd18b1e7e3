import TreeQuery.Proofs.Number.Rounding

/-!
# Numbers read back

Integers and doubles are written so that reading the text gives the number again. For an integer
this is a fact about decimal digits; for a double it adds that the place of the point and the
exponent of the notation only move zeros, which rounding does not see.

## Main results

* `readInt64?_integerSpelling`: an integer reads back.
* `readBinary64?_literalText`: **a finite double reads back**, sign of zero included.
* `readInt64?_literalText`: the text of a finite double is that of no integer.
-/

namespace TreeQuery

/-! ### Digits -/

/-- A decimal digit has the value that its place after the zero gives. -/
theorem digitValue?_of_isDigit {c : Char} (h : c.isDigit = true) :
    digitValue? c = some (c.toNat - '0'.toNat) := by
  simp only [Char.isDigit, Bool.and_eq_true, decide_eq_true_eq] at h
  exact if_pos h

/-- Digits read on their own have the value of a decimal numeral. -/
theorem readDigits?_eq {digits : List Char} (h : ∀ c ∈ digits, c.isDigit = true) (value : Nat) :
    readDigits? 10 value digits = some (Nat.ofDigitChars 10 digits value) := by
  induction digits generalizing value with
  | nil => rfl
  | cons c rest ih =>
    have hc := h c List.mem_cons_self
    have hlt : c.toNat - '0'.toNat < 10 := by
      simp only [Char.isDigit, Bool.and_eq_true, decide_eq_true_eq] at hc
      have : c.toNat ≤ 57 := hc.2
      change c.toNat - 48 < 10
      omega
    rw [readDigits?, digitValue?_of_isDigit hc]
    dsimp only
    rw [if_pos hlt, ih fun d hd => h d (List.mem_cons_of_mem c hd), Nat.ofDigitChars_cons,
      Nat.mul_comm value]

/-- A natural number is written with decimal digits. -/
theorem isDigit_of_mem_toDigits {n : Nat} {c : Char} (h : c ∈ Nat.toDigits 10 n) :
    c.isDigit = true :=
  Nat.isDigit_of_mem_toDigits (by decide) (by decide) h

/-- An integer is spelled by digits and a minus sign. -/
theorem mem_integerSpelling {n : Int} {c : Char} (h : c ∈ integerSpelling n) :
    c.isDigit = true ∨ c = '-' := by
  unfold integerSpelling at h
  split at h
  · rcases List.mem_cons.mp h with rfl | h
    · exact .inr rfl
    · exact .inl (isDigit_of_mem_toDigits h)
  · exact .inl (isDigit_of_mem_toDigits h)

/-- A natural number reads back. -/
theorem readNat?_toDigits (n : Nat) : readNat? 10 (Nat.toDigits 10 n) = some n := by
  rw [readNat?, if_neg (by simp), readDigits?_eq (fun _ => isDigit_of_mem_toDigits),
    Nat.ofDigitChars_ten_toDigits]

/-- Digits have the value of a decimal numeral. -/
theorem digitsValue_eq {digits : List Char} (h : ∀ c ∈ digits, c.isDigit = true) :
    digitsValue digits = Nat.ofDigitChars 10 digits 0 := by
  rw [digitsValue, readDigits?_eq h, Option.getD_some]

/-- Text that begins with a digit has no sign. -/
theorem splitSign_of_isDigit {text : List Char} (h : ∃ c ∈ text.head?, c.isDigit = true) :
    splitSign text = (false, text) := by
  obtain ⟨c, hc, hdigit⟩ := h
  unfold splitSign
  split
  · obtain rfl : '-' = c := by simpa using hc
    simp at hdigit
  · obtain rfl : '+' = c := by simpa using hc
    simp at hdigit
  · rfl

/-- A run of digits begins with one. -/
theorem exists_head?_isDigit {digits : List Char} (hne : digits ≠ [])
    (h : ∀ c ∈ digits, c.isDigit = true) (rest : List Char) :
    ∃ c ∈ (digits ++ rest).head?, c.isDigit = true := by
  obtain ⟨c, digits', rfl⟩ := List.exists_cons_of_ne_nil hne
  exact ⟨c, by simp, h c List.mem_cons_self⟩

/-- A natural number begins with a digit, whatever stands behind it. -/
theorem head?_toDigits (n : Nat) (rest : List Char) :
    ∃ c ∈ (Nat.toDigits 10 n ++ rest).head?, c.isDigit = true :=
  exists_head?_isDigit Nat.toDigits_ne_nil (fun _ => isDigit_of_mem_toDigits) rest

/-! ### Integers -/

/-- The sign and digits of an integer are those that it is written with. -/
theorem splitSign_integerSpelling (n : Int) :
    splitSign (integerSpelling n) = (decide (n < 0), Nat.toDigits 10 n.natAbs) := by
  unfold integerSpelling
  split
  · rename_i hneg
    rw [splitSign, decide_eq_true hneg]
  · rename_i hnonneg
    rw [decide_eq_false hnonneg]
    exact splitSign_of_isDigit (by simpa using head?_toDigits n.natAbs [])

/-- An integer is its magnitude with its sign. -/
theorem sign_mul_natAbs (n : Int) :
    (if decide (n < 0) = true then -(n.natAbs : Int) else n.natAbs) = n := by
  simp only [decide_eq_true_eq]
  split <;> omega

/-- **An integer reads back.** -/
theorem readInt64?_integerSpelling (value : Int64) :
    readInt64? 10 (integerSpelling value.toInt) = some value := by
  rw [readInt64?, splitSign_integerSpelling]
  dsimp only
  rw [readNat?_toDigits]
  dsimp only
  rw [sign_mul_natAbs, toInt64?, if_pos ⟨Int64.le_toInt value, Int64.toInt_lt value⟩,
    Int64.ofInt_toInt]

/-! ### Fractions -/

/-- **A run of characters of a class is taken up to the first character that is not.** -/
theorem takeWhile_append_of_stop {p : Char → Bool} {run rest : List Char}
    (hrun : ∀ c ∈ run, p c = true) (hrest : ∀ c ∈ rest.head?, p c = false) :
    (run ++ rest).takeWhile p = run ∧ (run ++ rest).dropWhile p = rest := by
  rw [List.takeWhile_append_of_pos hrun, List.dropWhile_append_of_pos hrun]
  cases rest with
  | nil => simp
  | cons c rest => simp [hrest c rfl]

/-- A run of digits is read up to where it ends. -/
theorem spanDigits_append {digits rest : List Char} (h : ∀ c ∈ digits, c.isDigit = true)
    (hrest : ∀ c ∈ rest.head?, c.isDigit = false) :
    spanDigits (digits ++ rest) = (digits, rest) := by
  obtain ⟨htake, hdrop⟩ := takeWhile_append_of_stop h hrest
  rw [spanDigits, List.span_eq_takeWhile_dropWhile, htake, hdrop]

/-- A fraction with a point: the digits behind the point count down the exponent. -/
theorem readDecimal?_point (whole fraction rest : List Char)
    (hwhole : ∀ c ∈ whole, c.isDigit = true) (hfraction : ∀ c ∈ fraction, c.isDigit = true)
    (hne : whole ≠ []) (hrest : ∀ c ∈ rest.head?, c.isDigit = false) :
    readDecimal? (whole ++ '.' :: (fraction ++ rest)) =
      (readExponent? rest).map fun exponent =>
        ⟨Nat.ofDigitChars 10 (whole ++ fraction) 0, exponent - fraction.length⟩ := by
  have hdigits : ∀ c ∈ whole ++ fraction, c.isDigit = true := by
    intro c hc
    exact (List.mem_append.mp hc).elim (hwhole c) (hfraction c)
  have hempty : whole.isEmpty = false := by simpa using hne
  have hspan := spanDigits_append hwhole
    (show ∀ c ∈ ('.' :: (fraction ++ rest)).head?, c.isDigit = false by simp)
  simp only [readDecimal?, hspan, spanDigits_append hfraction hrest, hempty, Bool.false_and,
    Bool.false_eq_true, if_false, digitsValue_eq hdigits]
  cases readExponent? rest <;> rfl

/-- A fraction without a point. -/
theorem readDecimal?_whole (whole rest : List Char) (hwhole : ∀ c ∈ whole, c.isDigit = true)
    (hne : whole ≠ []) (hrest : ∀ c ∈ rest.head?, c.isDigit = false ∧ c ≠ '.') :
    readDecimal? (whole ++ rest) =
      (readExponent? rest).map fun exponent => ⟨Nat.ofDigitChars 10 whole 0, exponent⟩ := by
  have hempty : whole.isEmpty = false := by simpa using hne
  have hspan := spanDigits_append hwhole fun c hc => (hrest c hc).1
  have hpoint : ∀ more, rest ≠ '.' :: more := by
    rintro more rfl
    exact (hrest '.' rfl).2 rfl
  unfold readDecimal?
  rw [hspan]
  dsimp only
  split
  · exact absurd rfl (hpoint _)
  · rw [hempty, Bool.false_and, if_neg (by simp), List.append_nil, digitsValue_eq hwhole]
    cases readExponent? rest <;> simp

/-- An exponent reads back behind its mark. -/
theorem readExponent?_integerSpelling (n : Int) :
    readExponent? ('e' :: integerSpelling n) = some n := by
  rw [readExponent?, if_pos (Or.inl rfl), splitSign_integerSpelling]
  dsimp only
  rw [readNat?_toDigits]
  exact congrArg some (sign_mul_natAbs n)

namespace Decimal

/-- Zeros are digits. -/
theorem isDigit_of_mem_zeros {n : Nat} {c : Char} (h : c ∈ List.replicate n '0') :
    c.isDigit = true := by
  rw [(List.mem_replicate.mp h).2]
  rfl

/-- The digits of a numeral are written with decimal digits. -/
theorem isDigit_of_mem_digitText {d : Decimal} {c : Char} (h : c ∈ d.digitText) :
    c.isDigit = true :=
  isDigit_of_mem_toDigits h

/-- The written digits of a numeral have the value of its digits. -/
theorem ofDigitChars_digitText (d : Decimal) : Nat.ofDigitChars 10 d.digitText 0 = d.digits :=
  Nat.ofDigitChars_ten_toDigits

/-- A whole numeral that keeps its point reads back with the zeros among its digits. -/
theorem readDecimal?_positional_of_nonneg {d : Decimal} (h : 0 ≤ d.exponent) :
    readDecimal? (d.positional true) =
      some ⟨d.digits * 10 ^ (d.exponent.toNat + 1), d.exponent - (d.exponent.toNat + 1 : Nat)⟩ := by
  have hwhole : ∀ c ∈ d.digitText ++ List.replicate d.exponent.toNat '0', c.isDigit = true :=
    fun c hc => (List.mem_append.mp hc).elim isDigit_of_mem_digitText isDigit_of_mem_zeros
  have hread := readDecimal?_point _ ['0'] [] hwhole (by simp) (by simp [digitText]) (by simp)
  have hexp : (0 : Int) - 1 = d.exponent - (d.exponent.toNat + 1 : Nat) := by omega
  unfold positional
  dsimp only
  rw [if_pos h, if_pos rfl]
  refine hread.trans ?_
  rw [readExponent?, Option.map_some, Nat.ofDigitChars_append, Nat.ofDigitChars_append,
    ofDigitChars_digitText, Nat.ofDigitChars_replicate_zero, Nat.ofDigitChars_cons,
    Nat.ofDigitChars_nil, Nat.pow_succ, ← hexp]
  congr 2
  change 10 * (10 ^ d.exponent.toNat * d.digits) + 0 = _
  ring

/-- A numeral with places behind the point reads back as it is. -/
theorem readDecimal?_positional_of_neg {d : Decimal} (h : ¬ 0 ≤ d.exponent) :
    readDecimal? (d.positional true) = some d := by
  obtain ⟨n, hn⟩ : ∃ n : Nat, d.exponent = -n := ⟨(-d.exponent).toNat, by omega⟩
  have hplaces : (-d.exponent).toNat = n := by omega
  unfold positional
  dsimp only
  rw [if_neg h, hplaces]
  split
  · rename_i hlt
    have hread := readDecimal?_point (d.digitText.take (d.digitText.length - n))
      (d.digitText.drop (d.digitText.length - n)) []
      (fun c hc => isDigit_of_mem_digitText (List.mem_of_mem_take hc))
      (fun c hc => isDigit_of_mem_digitText (List.mem_of_mem_drop hc))
      (by rw [← List.length_pos_iff_ne_nil, List.length_take]; omega) (by simp)
    rw [List.append_nil] at hread
    rw [hread, readExponent?, Option.map_some, List.take_append_drop, ofDigitChars_digitText,
      List.length_drop]
    congr
    omega
  · rename_i hge
    have hfraction : ∀ c ∈ List.replicate (n - d.digitText.length) '0' ++ d.digitText,
        c.isDigit = true :=
      fun c hc => (List.mem_append.mp hc).elim isDigit_of_mem_zeros isDigit_of_mem_digitText
    have hread := readDecimal?_point ['0'] _ [] (by simp) hfraction (by simp)
      (by simp)
    rw [List.append_nil] at hread
    refine hread.trans ?_
    rw [readExponent?, Option.map_some, List.singleton_append, Nat.ofDigitChars_cons,
      Nat.ofDigitChars_append, List.length_append, List.length_replicate]
    have hzero : Nat.ofDigitChars 10 (List.replicate (n - d.digitText.length) '0')
        (10 * 0 + ('0'.toNat - '0'.toNat)) = 0 := by
      rw [Nat.ofDigitChars_replicate_zero]
      rfl
    rw [hzero, ofDigitChars_digitText]
    congr
    omega

/-- **Positional notation reads back** to a numeral of the same nearest rank. -/
theorem readDecimal?_positional (d : Decimal) :
    ∃ d', readDecimal? (d.positional true) = some d' ∧ d'.nearestRank = d.nearestRank := by
  by_cases h : 0 ≤ d.exponent
  · exact ⟨_, readDecimal?_positional_of_nonneg h, nearestRank_shift _ _ _⟩
  · exact ⟨d, readDecimal?_positional_of_neg h, rfl⟩

/-- **Exponent notation reads back** to the numeral itself. -/
theorem readDecimal?_scientific (d : Decimal) : readDecimal? d.scientific = some d := by
  have hlength : width d.digits = d.digitText.length := rfl
  have hvalue := ofDigitChars_digitText d
  have hdigits : ∀ c ∈ d.digitText, c.isDigit = true := fun _ => isDigit_of_mem_digitText
  have hne : d.digitText ≠ [] := Nat.toDigits_ne_nil
  unfold scientific
  dsimp only
  rw [leadingExponent, hlength]
  split
  · rename_i first second rest htext
    rw [htext] at hvalue hdigits ⊢
    have hread := readDecimal?_point [first] (second :: rest)
      ('e' :: integerSpelling (d.exponent + (first :: second :: rest).length - 1))
      (by simpa using hdigits first List.mem_cons_self)
      (fun c hc => hdigits c (List.mem_cons_of_mem _ hc)) (by simp) (by simp)
    refine hread.trans ?_
    rw [readExponent?_integerSpelling, Option.map_some, List.singleton_append, hvalue]
    congr
    simp only [List.length_cons]
    omega
  · rename_i hshort
    obtain ⟨first, rest, htext⟩ := List.exists_cons_of_ne_nil hne
    obtain rfl : rest = [] := by
      cases rest with
      | nil => rfl
      | cons second rest => exact absurd htext (hshort first second rest)
    have hread := readDecimal?_whole _
      ('e' :: integerSpelling (d.exponent + d.digitText.length - 1)) hdigits hne (by simp)
    rw [hread, readExponent?_integerSpelling, Option.map_some, hvalue, htext]
    congr
    simp

/-- Whether a character occurs in the text of a finite double. -/
def isNumeralChar (c : Char) : Bool := c.isDigit || c == '.' || c == 'e' || c == '-'

/-- Digits occur in the text of a double. -/
theorem isNumeralChar_of_isDigit {c : Char} (h : c.isDigit = true) : isNumeralChar c = true := by
  simp [isNumeralChar, h]

/-- What an integer is spelled with occurs in the text of a double. -/
theorem isNumeralChar_of_mem_integerSpelling {n : Int} {c : Char} (h : c ∈ integerSpelling n) :
    isNumeralChar c = true := by
  rcases mem_integerSpelling h with hdigit | rfl
  · exact isNumeralChar_of_isDigit hdigit
  · rfl

/-- Positional notation is digits with a point among them, and not in front. -/
theorem positional_eq (d : Decimal) :
    ∃ whole fraction, d.positional true = whole ++ '.' :: fraction ∧ whole ≠ [] ∧
      ∀ c ∈ whole ++ fraction, c.isDigit = true := by
  have hdigits : ∀ c ∈ d.digitText, c.isDigit = true := fun _ => isDigit_of_mem_digitText
  unfold positional
  dsimp only
  split
  · refine ⟨d.digitText ++ List.replicate d.exponent.toNat '0', ['0'], rfl, by simp [digitText], ?_⟩
    intro c hc
    simp only [List.mem_append, List.mem_singleton] at hc
    rcases hc with (hc | hc) | rfl
    · exact hdigits c hc
    · exact isDigit_of_mem_zeros hc
    · rfl
  · split
    · rename_i hlt
      refine ⟨_, _, rfl, ?_, by rw [List.take_append_drop]; exact hdigits⟩
      rw [← List.length_pos_iff_ne_nil, List.length_take]
      omega
    · refine ⟨['0'], _, rfl, by simp, ?_⟩
      intro c hc
      simp only [List.mem_append, List.mem_singleton] at hc
      rcases hc with rfl | hc | hc
      · rfl
      · exact isDigit_of_mem_zeros hc
      · exact hdigits c hc

/-- Exponent notation is a digit, more digits behind a point if there are any, and the exponent
behind its mark. -/
theorem scientific_eq (d : Decimal) :
    ∃ first mantissa, d.scientific = first :: mantissa ++ 'e' :: integerSpelling d.leadingExponent ∧
      first.isDigit = true ∧ ∀ c ∈ mantissa, c.isDigit = true ∨ c = '.' := by
  have hdigits : ∀ c ∈ d.digitText, c.isDigit = true := fun _ => isDigit_of_mem_digitText
  have hne : d.digitText ≠ [] := Nat.toDigits_ne_nil
  unfold scientific
  dsimp only
  split
  · rename_i first second rest htext
    rw [htext] at hdigits
    refine ⟨first, '.' :: second :: rest, rfl, hdigits first List.mem_cons_self, ?_⟩
    intro c hc
    rcases List.mem_cons.mp hc with rfl | hc
    · exact Or.inr rfl
    · exact Or.inl (hdigits c (List.mem_cons_of_mem _ hc))
  · obtain ⟨first, rest, htext⟩ := List.exists_cons_of_ne_nil hne
    rw [htext] at hdigits ⊢
    exact ⟨first, rest, rfl, hdigits first List.mem_cons_self,
      fun c hc => Or.inl (hdigits c (List.mem_cons_of_mem _ hc))⟩

end Decimal

namespace Binary64

open Decimal

/-! ### Doubles -/

/-- The text of the magnitude of a rank in a literal. -/
def magnitudeText (rank : Nat) : List Char :=
  let d := shortest rank
  if -4 ≤ d.leadingExponent ∧ d.leadingExponent < 16 then d.positional true else d.scientific

/-- Whether a number is neither infinite nor a not-a-number. -/
def isFinite (x : Binary64) : Bool := decide (x.rank < infinityRank)

/-- The text of a finite double is that of its magnitude, behind a minus sign if it has one. -/
theorem literalText_toList {x : Binary64} (h : x.isFinite = true) :
    x.literalText.toList =
      if x.negative then '-' :: magnitudeText x.rank else magnitudeText x.rank := by
  have hrank : x.rank < infinityRank := of_decide_eq_true h
  have hnan : x.isNaN = false := decide_eq_false (by omega)
  have hinfinite : x.isInfinite = false := beq_eq_false_iff_ne.mpr (by omega)
  unfold literalText signedText
  rw [hnan, hinfinite, if_neg (by simp), if_neg (by simp), String.toList_ofList]
  rfl

/-- The text of a magnitude begins with a digit. -/
theorem head?_magnitudeText (rank : Nat) : ∃ c ∈ (magnitudeText rank).head?, c.isDigit = true := by
  unfold magnitudeText
  dsimp only
  split
  · obtain ⟨whole, fraction, heq, hne, hdigits⟩ := (shortest rank).positional_eq
    rw [heq]
    exact exists_head?_isDigit hne (fun c hc => hdigits c (List.mem_append_left _ hc)) _
  · obtain ⟨first, mantissa, heq, hfirst, -⟩ := (shortest rank).scientific_eq
    rw [heq]
    exact ⟨first, rfl, hfirst⟩

/-- The text of a magnitude is digits, a point, an exponent mark and the sign of an exponent. -/
theorem isNumeralChar_of_mem_magnitudeText {rank : Nat} {c : Char} (h : c ∈ magnitudeText rank) :
    isNumeralChar c = true := by
  unfold magnitudeText at h
  dsimp only at h
  split at h
  · obtain ⟨whole, fraction, heq, -, hdigits⟩ := (shortest rank).positional_eq
    rw [heq, List.mem_append, List.mem_cons] at h
    rcases h with h | rfl | h
    · exact isNumeralChar_of_isDigit (hdigits c (List.mem_append_left _ h))
    · rfl
    · exact isNumeralChar_of_isDigit (hdigits c (List.mem_append_right _ h))
  · obtain ⟨first, mantissa, heq, hfirst, hmantissa⟩ := (shortest rank).scientific_eq
    rw [heq, List.cons_append, List.mem_cons, List.mem_append, List.mem_cons] at h
    rcases h with rfl | h | rfl | h
    · exact isNumeralChar_of_isDigit hfirst
    · rcases hmantissa c h with h | rfl
      · exact isNumeralChar_of_isDigit h
      · rfl
    · rfl
    · exact isNumeralChar_of_mem_integerSpelling h

/-- The text of a magnitude holds a point or an exponent mark. -/
theorem exists_mark_magnitudeText (rank : Nat) : ∃ c ∈ magnitudeText rank, c.isDigit = false := by
  unfold magnitudeText
  dsimp only
  split
  · obtain ⟨whole, fraction, heq, -, -⟩ := (shortest rank).positional_eq
    exact ⟨'.', by simp [heq], rfl⟩
  · obtain ⟨first, mantissa, heq, -, -⟩ := (shortest rank).scientific_eq
    exact ⟨'e', by simp [heq], rfl⟩

/-- **The text of a magnitude reads back** to a numeral of the same rank, in either notation. -/
theorem readDecimal?_magnitudeText {rank : Nat} (h : rank ≤ infinityRank) :
    ∃ d, readDecimal? (magnitudeText rank) = some d ∧ d.nearestRank = rank := by
  unfold magnitudeText
  dsimp only
  split
  · obtain ⟨d, hread, hrank⟩ := (shortest rank).readDecimal?_positional
    exact ⟨d, hread, hrank.trans (nearestRank_shortest h)⟩
  · exact ⟨_, readDecimal?_scientific _, nearestRank_shortest h⟩

/-- A number other than a not-a-number is given by its sign and its rank. -/
theorem ofRank_rank {x : Binary64} (h : x.rank ≤ infinityRank) : ofRank x.negative x.rank = x := by
  obtain ⟨negative, rank, hlt⟩ := x
  simp only [ofRank, Binary64.mk.injEq, true_and]
  exact Nat.min_eq_left h

end Binary64

open Binary64

/-- The sign of a finite double is taken off from its text. -/
theorem splitSign_literalText {x : Binary64} (h : x.isFinite = true) :
    splitSign x.literalText.toList = (x.negative, magnitudeText x.rank) := by
  rw [literalText_toList h]
  cases x.negative
  · exact splitSign_of_isDigit (head?_magnitudeText _)
  · rfl

/-- Digits have no case. -/
theorem toLower_of_isDigit {c : Char} (h : c.isDigit = true) : c.toLower = c := by
  simp only [Char.isDigit, Bool.and_eq_true, decide_eq_true_eq] at h
  refine dif_neg fun hupper => ?_
  exact absurd (Nat.le_trans hupper.1 h.2) (by decide)

/-- A word that is read as something else than a fraction does not begin with a digit. -/
theorem map_toLower_ne_of_isDigit {text word : List Char}
    (h : ∃ c ∈ text.head?, c.isDigit = true) (hword : word.head?.map Char.isDigit = some false) :
    text.map Char.toLower ≠ word := by
  obtain ⟨c, hc, hdigit⟩ := h
  obtain ⟨rest, rfl⟩ : ∃ rest, text = c :: rest := ⟨_, List.eq_cons_of_mem_head? hc⟩
  rintro rfl
  have hfirst : some c.toLower.isDigit = some false := hword
  rw [toLower_of_isDigit hdigit, hdigit] at hfirst
  cases hfirst

/-- **A finite double reads back**, and so does the sign of a zero. -/
theorem readBinary64?_literalText {x : Binary64} (h : x.isFinite = true) :
    readBinary64? x.literalText.toList = some x := by
  have hrank : x.rank ≤ infinityRank := Nat.le_of_lt (of_decide_eq_true h)
  have hdigit := head?_magnitudeText x.rank
  obtain ⟨d, hread, hnearest⟩ := readDecimal?_magnitudeText hrank
  rw [readBinary64?, splitSign_literalText h]
  dsimp only
  rw [if_neg, if_neg, hread, Option.map_some, hnearest, ofRank_rank hrank]
  · exact map_toLower_ne_of_isDigit hdigit rfl
  · rintro (h | h)
    · exact map_toLower_ne_of_isDigit hdigit rfl h
    · exact map_toLower_ne_of_isDigit hdigit rfl h

/-- What has a value below ten as a digit is a decimal digit. -/
theorem isDigit_of_digitValue?_lt {c : Char} {d : Nat} (h : digitValue? c = some d) (hlt : d < 10) :
    c.isDigit = true := by
  unfold digitValue? at h
  split at h
  · rename_i hc
    simp only [Char.isDigit, Bool.and_eq_true, decide_eq_true_eq]
    exact hc
  · split at h
    · cases h
      omega
    · split at h
      · cases h
        omega
      · cases h

/-- Only decimal digits are read as a decimal number. -/
theorem isDigit_of_readDigits? {text : List Char} {value n : Nat}
    (h : readDigits? 10 value text = some n) : ∀ c ∈ text, c.isDigit = true := by
  induction text generalizing value with
  | nil => simp
  | cons c rest ih =>
    rw [readDigits?] at h
    split at h
    · rename_i d hd
      split at h
      · rename_i hlt
        intro c' hc'
        rcases List.mem_cons.mp hc' with rfl | hc'
        · exact isDigit_of_digitValue?_lt hd hlt
        · exact ih h c' hc'
      · cases h
    · cases h

/-- The text of a finite double is that of no integer. -/
theorem readInt64?_literalText {x : Binary64} (h : x.isFinite = true) :
    readInt64? 10 x.literalText.toList = none := by
  obtain ⟨c, hc, hdigit⟩ := exists_mark_magnitudeText x.rank
  rw [readInt64?, splitSign_literalText h]
  dsimp only
  cases hread : readNat? 10 (magnitudeText x.rank) with
  | none => rfl
  | some n =>
    rw [readNat?] at hread
    split at hread
    · cases hread
    · rw [isDigit_of_readDigits? hread c hc] at hdigit
      cases hdigit

end TreeQuery
