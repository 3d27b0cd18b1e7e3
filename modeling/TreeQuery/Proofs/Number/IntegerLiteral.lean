import Mathlib.Data.List.ReduceOption
import Mathlib.Data.Nat.Digits.Lemmas
import Mathlib.Order.Compare
import TreeQuery.Proofs.Reduction
import TreeQuery.Query.Search
import TreeQuery.Rule.Search
import TreeQuery.SyntaxTree

/-!
# Integer literals

An integer literal of source code is a mark for its radix, digits with underscores among them, and
perhaps the name of a type. Reading one takes it apart from both ends: no digit is taken for a mark,
and none for a part of the name, since the names begin with letters that are no digits of any radix.
What is left has **the value of its digits if that fits into 64 bits, and no value otherwise**.

A node for such a literal is compared by that value, or by none.

## Main definitions and results

* `SyntaxTree.IntegerLiteral` — literals, with their text and their value.
* `SyntaxTree.splitRadix_text`, `SyntaxTree.dropSuffix_append`: the two ends are taken off.
* `readDigits?_digits`: the digits between them have their value.
* `SyntaxTree.IntegerLiteral.value_or_none`: **a literal has its value or none**, and is compared by
  it.
-/

namespace TreeQuery

namespace SyntaxTree

/-! ### Literals -/

/-- The radices in which integers are written. -/
inductive Radix where
  /-- Ten. -/
  | decimal
  /-- Sixteen. -/
  | hexadecimal
  /-- Eight. -/
  | octal
  /-- Two. -/
  | binary

namespace Radix

/-- The number that a radix is. -/
def base : Radix → Nat
  | decimal => 10
  | hexadecimal => 16
  | octal => 8
  | binary => 2

/-- What a literal of the radix begins with. -/
def mark : Radix → List Char
  | decimal => []
  | hexadecimal => ['0', 'x']
  | octal => ['0', 'o']
  | binary => ['0', 'b']

/-- No radix has digits beyond the letters up to f. -/
theorem base_le (radix : Radix) : radix.base ≤ 16 := by
  cases radix <;> decide

end Radix

/-- A digit, which may be written as a capital letter. -/
structure Digit (base : Nat) where
  /-- Its value. -/
  value : Fin base
  /-- Whether a letter is a capital one. -/
  capital : Bool

/-- The character that a digit is written as. -/
def Digit.char {base : Nat} (digit : Digit base) : Char :=
  if digit.capital then (Nat.digitChar digit.value).toUpper else Nat.digitChar digit.value

/-- How wide a type of integers is. -/
inductive Width where
  | bits8 | bits16 | bits32 | bits64 | bits128
  /-- As wide as an address. -/
  | address

/-- The name of a width. -/
def Width.name : Width → List Char
  | bits8 => "8".toList
  | bits16 => "16".toList
  | bits32 => "32".toList
  | bits64 => "64".toList
  | bits128 => "128".toList
  | address => "size".toList

/-- A type of integers. -/
structure IntegerType where
  /-- Whether it has negative values. -/
  signed : Bool
  /-- How wide it is. -/
  width : Width

/-- The name of a type of integers. -/
def IntegerType.name (type : IntegerType) : List Char :=
  (if type.signed then 'i' else 'u') :: type.width.name

/-- An integer literal. -/
structure IntegerLiteral where
  /-- Its radix. -/
  radix : Radix
  /-- Its digits, with an underscore where there is none. -/
  figures : List (Option (Digit radix.base))
  /-- The type that it names. -/
  type? : Option IntegerType
  /-- There is a digit. -/
  hasDigit : figures.reduceOption ≠ []
  /-- A decimal literal begins with a digit. -/
  startsWithDigit : radix = .decimal → figures.head? ≠ some none

namespace IntegerLiteral

/-- The digits of a literal. -/
def digits (literal : IntegerLiteral) : List (Digit literal.radix.base) :=
  literal.figures.reduceOption

/-- How a literal is written. -/
def text (literal : IntegerLiteral) : List Char :=
  literal.radix.mark ++ literal.figures.map (fun figure => figure.elim '_' Digit.char) ++
    literal.type?.elim [] IntegerType.name

/-- The number that the digits of a literal are, the first one being the most significant. -/
def value (literal : IntegerLiteral) : Nat :=
  Nat.ofDigits literal.radix.base (literal.digits.map fun digit => digit.value.val).reverse

end IntegerLiteral

/-! ### Digits -/

/-- A digit is read as its value, written with a small letter or a capital one. -/
theorem Digit.digitValue?_char {base : Nat} (hbase : base ≤ 16) (digit : Digit base) :
    digitValue? digit.char = some digit.value.val := by
  have hhexadecimal : ∀ (value : Fin 16) (capital : Bool),
      digitValue? (Digit.char ⟨value, capital⟩) = some value.val := by decide
  exact hhexadecimal (digit.value.castLE hbase) digit.capital

/-- A character that is no digit of the radix, nor of a larger one, is not what a digit is written
as. -/
theorem Digit.char_ne {base larger : Nat} (hbase : base ≤ larger) (hlarger : larger ≤ 16)
    (digit : Digit base) {c : Char} (hc : ∀ value ∈ digitValue? c, larger ≤ value) :
    digit.char ≠ c := by
  rintro rfl
  have hle := hc _ (digit.digitValue?_char (hbase.trans hlarger))
  exact absurd digit.value.isLt (Nat.not_lt.mpr (hbase.trans hle))

/-- **Digits have their value**, behind the value read so far. -/
theorem readDigits?_digits {base : Nat} (hbase : base ≤ 16) (digits : List (Digit base))
    (before : Nat) :
    readDigits? base before (digits.map Digit.char) =
      some (before * base ^ digits.length +
        Nat.ofDigits base (digits.map fun digit => digit.value.val).reverse) := by
  induction digits generalizing before with
  | nil => simp [readDigits?]
  | cons digit digits ih =>
    rw [List.map_cons, readDigits?, digit.digitValue?_char hbase]
    dsimp only
    rw [if_pos digit.value.isLt, ih, List.map_cons, Nat.ofDigits_reverse_cons, List.length_map,
      List.length_cons]
    congr 1
    ring

/-- A run of digits is read as a number without a sign. -/
theorem readInt64?_digits {base : Nat} (hbase : base ≤ 16) {digits : List (Digit base)}
    (hdigits : digits ≠ []) :
    readInt64? base (digits.map Digit.char) =
      toInt64? (Nat.ofDigits base (digits.map fun digit => digit.value.val).reverse : Nat) := by
  obtain ⟨first, others, rfl⟩ := List.exists_cons_of_ne_nil hdigits
  have hminus : first.char ≠ '-' := first.char_ne hbase le_rfl (by decide)
  have hplus : first.char ≠ '+' := first.char_ne hbase le_rfl (by decide)
  have hsign : splitSign ((first :: others).map Digit.char) =
      (false, (first :: others).map Digit.char) := by
    rw [List.map_cons]
    unfold splitSign
    split
    · rename_i heq
      exact absurd (List.cons.inj heq).1 hminus
    · rename_i heq
      exact absurd (List.cons.inj heq).1 hplus
    · rfl
  have hread : readNat? base ((first :: others).map Digit.char) =
      some (Nat.ofDigits base ((first :: others).map fun digit => digit.value.val).reverse) := by
    rw [readNat?, if_neg (by simp), readDigits?_digits hbase, Nat.zero_mul, Nat.zero_add]
  rw [readInt64?, hsign]
  dsimp only
  rw [hread]
  rfl

/-! ### The two ends of a literal -/

/-- A text whose second character is no letter of a mark is in decimal. -/
theorem splitRadix_of_second {text : List Char} (h : ∀ c ∈ text.tail.head?, c ∉ ['x', 'o', 'b']) :
    splitRadix text = (10, text) := by
  unfold splitRadix
  split
  · exact absurd (h 'x' rfl) (by decide)
  · exact absurd (h 'o' rfl) (by decide)
  · exact absurd (h 'b' rfl) (by decide)
  · rfl

/-- The first suffix that a text has is dropped, if only one is such. -/
theorem dropSuffix_append {suffixes : List String} {front ending : List Char}
    (hmem : String.ofList ending ∈ suffixes)
    (honly : ∀ suffix ∈ suffixes, suffix.toList <:+ front ++ ending → suffix.toList = ending) :
    dropSuffix suffixes (front ++ ending) = front := by
  have hdrop : dropEnding? ending (front ++ ending) = some front := by
    simp [dropEnding?]
  rw [dropSuffix]
  cases hfound : suffixes.findSome? fun suffix => dropEnding? suffix.toList (front ++ ending) with
  | none =>
    have hnone := List.findSome?_eq_none_iff.mp hfound _ hmem
    rw [String.toList_ofList, hdrop] at hnone
    cases hnone
  | some rest =>
    obtain ⟨suffix, hsuffix, heq⟩ := List.exists_of_findSome?_eq_some hfound
    have hending : suffix.toList = ending := by
      refine honly suffix hsuffix ?_
      unfold dropEnding? at heq
      split at heq
      · rename_i hends
        exact List.isSuffixOf_iff_suffix.mp hends
      · cases heq
    rw [hending, hdrop] at heq
    exact (Option.some.inj heq).symm

/-- A text without any of the suffixes is kept. -/
theorem dropSuffix_of_forall_not_suffix {suffixes : List String} {text : List Char}
    (h : ∀ suffix ∈ suffixes, ¬ suffix.toList <:+ text) : dropSuffix suffixes text = text := by
  have hnone : (suffixes.findSome? fun suffix => dropEnding? suffix.toList text) = none := by
    refine List.findSome?_eq_none_iff.mpr fun suffix hsuffix => if_neg fun hends => ?_
    exact h suffix hsuffix (List.isSuffixOf_iff_suffix.mp hends)
  rw [dropSuffix, hnone]
  rfl

/-- The name of every type of integers is tried as a suffix. -/
theorem name_mem_integerSuffixes (type : IntegerType) :
    String.ofList type.name ∈ integerSuffixes := by
  obtain ⟨signed, width⟩ := type
  cases signed <;> cases width <;> decide

/-- No name of a type ends in another one. -/
theorem eq_of_suffix_of_mem_integerSuffixes :
    ∀ a ∈ integerSuffixes, ∀ b ∈ integerSuffixes, a.toList <:+ b.toList → a = b := by
  decide

/-- Each begins with a letter that is no digit. -/
theorem exists_head?_of_mem_integerSuffixes :
    ∀ a ∈ integerSuffixes, ∃ c ∈ a.toList.head?, ∀ value ∈ digitValue? c, 16 ≤ value := by
  simp [integerSuffixes, digitValue?]

/-! ### The value of a literal -/

namespace IntegerLiteral

variable (literal : IntegerLiteral)

/-- The name of the type of a literal, if it names one. -/
def ending : List Char := literal.type?.elim [] IntegerType.name

/-- Without its underscores a literal is its mark, its digits and the name of its type. -/
theorem filter_text : literal.text.filter (· ≠ '_') =
    literal.radix.mark ++ (literal.digits.map Digit.char ++ literal.ending) := by
  have hfigures : ∀ figures : List (Option (Digit literal.radix.base)),
      (figures.map fun figure => figure.elim '_' Digit.char).filter (· ≠ '_') =
        figures.reduceOption.map Digit.char := by
    intro figures
    induction figures with
    | nil => rfl
    | cons figure figures ih =>
      cases figure with
      | none => exact ih
      | some digit =>
        have hdigit : digit.char ≠ '_' := digit.char_ne literal.radix.base_le le_rfl (by decide)
        simpa [hdigit, List.reduceOption_cons_of_some] using ih
  have hmark : literal.radix.mark.filter (· ≠ '_') = literal.radix.mark := by
    cases literal.radix <;> rfl
  have hending : literal.ending.filter (· ≠ '_') = literal.ending := by
    unfold ending
    cases literal.type? with
    | none => rfl
    | some type =>
      obtain ⟨signed, width⟩ := type
      cases signed <;> cases width <;> rfl
  rw [text, List.append_assoc, List.filter_append, List.filter_append, hmark, hfigures]
  exact congrArg (fun ending => _ ++ (_ ++ ending)) hending

/-- The mark of a literal gives its radix. -/
theorem splitRadix_text : splitRadix (literal.text.filter (· ≠ '_')) =
    (literal.radix.base, literal.digits.map Digit.char ++ literal.ending) := by
  rw [filter_text]
  obtain ⟨radix, figures, type?, hasDigit, startsWithDigit⟩ := literal
  cases radix with
  | decimal =>
    refine splitRadix_of_second fun c hc => ?_
    obtain ⟨first, others, hdigits⟩ := List.exists_cons_of_ne_nil hasDigit
    change c ∈ (figures.reduceOption.map Digit.char ++ _).tail.head? at hc
    rw [hdigits] at hc
    cases others with
    | nil =>
      cases type? with
      | none => cases hc
      | some type =>
        obtain rfl : (if type.signed then 'i' else 'u') = c := Option.some.inj hc
        cases type.signed <;> decide
    | cons second others =>
      obtain rfl : second.char = c := Option.some.inj hc
      have hmark : ∀ letter ∈ ['x', 'o', 'b'], ∀ value ∈ digitValue? letter, 10 ≤ value := by
        simp [digitValue?]
      intro hletter
      exact second.char_ne (le_refl 10) (by decide) (hmark _ hletter) rfl
  | _ => rfl

/-- The name of the type of a literal is dropped, and nothing else is. -/
theorem dropSuffix_digits :
    dropSuffix integerSuffixes (literal.digits.map Digit.char ++ literal.ending) =
      literal.digits.map Digit.char := by
  unfold ending
  cases literal.type? with
  | none =>
    refine (congrArg (dropSuffix _) (List.append_nil _)).trans ?_
    refine dropSuffix_of_forall_not_suffix fun suffix hsuffix hends => ?_
    obtain ⟨c, hc, hletter⟩ := exists_head?_of_mem_integerSuffixes suffix hsuffix
    obtain ⟨digit, -, hchar⟩ := List.mem_map.mp (hends.subset (List.mem_of_head? hc))
    exact digit.char_ne literal.radix.base_le le_rfl hletter hchar
  | some type =>
    have hname := name_mem_integerSuffixes type
    refine dropSuffix_append hname fun suffix hsuffix hends => ?_
    have hown : type.name <:+ literal.digits.map Digit.char ++ type.name := List.suffix_append _ _
    have htoList : (String.ofList type.name).toList = type.name := String.toList_ofList
    have hsame : suffix = String.ofList type.name := by
      have heither := List.suffix_or_suffix_of_suffix hends hown
      rw [← htoList] at heither
      rcases heither with h | h
      · exact eq_of_suffix_of_mem_integerSuffixes suffix hsuffix _ hname h
      · exact (eq_of_suffix_of_mem_integerSuffixes _ hname suffix hsuffix h).symm
    rw [hsame, htoList]
    rfl

/-- **A literal is read as the number of its digits.** -/
theorem integerValue?_eq : integerValue? literal.text = toInt64? (literal.value : Nat) := by
  rw [integerValue?, splitRadix_text]
  dsimp only
  rw [dropSuffix_digits]
  exact readInt64?_digits literal.radix.base_le literal.hasDigit

end IntegerLiteral

/-- A number has a 64-bit integer if it is not too large. -/
theorem map_toInt_toInt64? (n : Nat) :
    (toInt64? n).map Int64.toInt = if n < 2 ^ 63 then some (n : Int) else none := by
  unfold toInt64?
  split
  · rename_i hfits
    rw [if_pos (by omega), Option.map_some, Int64.toInt_ofInt_of_le hfits.1 hfits.2]
  · rw [if_neg (by omega), Option.map_none]

/-! ### Comparing a literal -/

/-- A comparison of numbers: its operator in a query, its keyword in a rule, and what it says of
integers. -/
structure NumericTest where
  /-- The operator. -/
  operator : Operator
  /-- The keyword, if it needs one. -/
  keyword? : Option Keyword
  /-- Whether what is found compares with what is expected. -/
  holds : (found expected : Int) → Bool

/-- The comparisons of numbers. -/
def numericTests : List NumericTest :=
  [⟨.equal, none, fun found expected => found == expected⟩,
    ⟨.greater, some .greater, fun found expected => expected < found⟩,
    ⟨.greaterOrEqual, some .greaterOrEqual, fun found expected => expected ≤ found⟩,
    ⟨.less, some .less, fun found expected => found < expected⟩,
    ⟨.lessOrEqual, some .lessOrEqual, fun found expected => found ≤ expected⟩]

section Comparisons

variable {ν : Type} {t : Tree ν} {slot : Slot ν} {found? : Option Int64}

/-- Integers are equal when their values are. -/
theorem equals_integer (a b : Int64) :
    Number.equals (.integer a) (.integer b) = (a.toInt == b.toInt) := by
  rw [Bool.eq_iff_iff]
  simp [Number.equals, Number.compare?]

/-- The strict order of integers is that of their values. -/
theorem less_integer (a b : Int64) :
    Number.less (.integer a) (.integer b) = decide (a.toInt < b.toInt) := by
  rw [Bool.eq_iff_iff]
  simp [Number.less, Number.compare?, compare_lt_iff_lt]

/-- The order of integers with equality is that of their values. -/
theorem lessOrEqual_integer (a b : Int64) :
    Number.lessOrEqual (.integer a) (.integer b) = decide (a.toInt ≤ b.toInt) := by
  rw [Number.lessOrEqual, less_integer, equals_integer, Bool.eq_iff_iff]
  simp [le_iff_lt_or_eq]

/-- A comparison of numbers, in a query and in a rule, asks for the integer that a slot stands
for. -/
theorem holds_of_compares (hslot : (t.reduce slot).number? = found?.map Number.integer) {base : ν}
    {bound : Int64} {operator : Operator} {keyword? : Option Keyword} {test : Int → Int → Bool}
    (compares : (actual expected : Number) → Bool)
    (hquery : (Value.integer bound).holds t base operator slot =
      .ok ((Value.integer bound).compareNumbers t compares slot))
    (hrule : (RuleValue.integer bound).compare t keyword? slot =
      .ok (t.agreesWithNumber compares (.integer bound) slot))
    (htest : ∀ a e, compares (.integer a) (.integer e) = test a.toInt e.toInt) :
    (Value.integer bound).holds t base operator slot =
        .ok ((found?.map Int64.toInt).any fun found => test found bound.toInt) ∧
      (RuleValue.integer bound).compare t keyword? slot =
        .ok ((found?.map Int64.toInt).any fun found => test found bound.toInt) := by
  rw [hquery, hrule, Value.compareNumbers, Tree.agreesWithNumber, hslot]
  cases found? with
  | none => exact ⟨rfl, rfl⟩
  | some found =>
    exact ⟨congrArg Except.ok (htest found bound), congrArg Except.ok (htest found bound)⟩

/-- **Queries and rules compare a slot alike, by the integer that it stands for.** -/
theorem holds_of_mem_numericTests (hslot : (t.reduce slot).number? = found?.map Number.integer)
    {test : NumericTest} (htest : test ∈ numericTests) (base : ν) (bound : Int64) :
    (Value.integer bound).holds t base test.operator slot =
        .ok ((found?.map Int64.toInt).any fun found => test.holds found bound.toInt) ∧
      (RuleValue.integer bound).compare t test.keyword? slot =
        .ok ((found?.map Int64.toInt).any fun found => test.holds found bound.toInt) := by
  simp only [numericTests, List.mem_cons, List.not_mem_nil, or_false] at htest
  rcases htest with rfl | rfl | rfl | rfl | rfl
  · exact holds_of_compares hslot Number.equals rfl rfl equals_integer
  · exact holds_of_compares hslot (fun a e => e.less a) rfl rfl fun a e => less_integer e a
  · exact holds_of_compares hslot (fun a e => e.lessOrEqual a) rfl rfl
      fun a e => lessOrEqual_integer e a
  · exact holds_of_compares hslot Number.less rfl rfl less_integer
  · exact holds_of_compares hslot Number.lessOrEqual rfl rfl lessOrEqual_integer

end Comparisons

/-- A node for an integer literal stands for the value of its text. -/
theorem number?_reduce_of_kind {s : SyntaxTree} {n : Nat}
    (hkind : (s.row n).kind = "integer_literal") :
    (s.tree.reduce (.node n)).number? = (integerValue? (s.text n).toList).map Number.integer := by
  have hliteral : s.tree.literal n = (integerValue? (s.text n).toList).map Slot.integer := by
    change s.literal? n = _
    rw [literal?, hkind]
    rfl
  cases hvalue : integerValue? (s.text n).toList with
  | none =>
    rw [hvalue] at hliteral
    rw [Tree.reduce, Tree.reduceWithin_node hliteral]
    rfl
  | some value =>
    rw [hvalue] at hliteral
    rw [Tree.reduce, Tree.reductionDepth, Tree.reduceWithin_node_of_literal hliteral]
    rfl

/-- **An integer literal has the value of its digits if that fits into 64 bits, and none
otherwise**, and a node for it is compared by that value: no comparison of numbers holds of it if it
has none. -/
theorem IntegerLiteral.value_or_none (literal : IntegerLiteral) :
    (integerValue? literal.text).map Int64.toInt =
        (if literal.value < 2 ^ 63 then some (literal.value : Int) else none) ∧
      ∀ (s : SyntaxTree) (n : Nat), (s.row n).kind = "integer_literal" →
        (s.text n).toList = literal.text →
        (s.tree.reduce (.node n)).number? = (integerValue? literal.text).map Number.integer ∧
        ∀ test ∈ numericTests, ∀ (base : Nat) (bound : Int64),
          (Value.integer bound).holds s.tree base test.operator (.node n) =
              .ok (decide (literal.value < 2 ^ 63) && test.holds literal.value bound.toInt) ∧
            (RuleValue.integer bound).compare s.tree test.keyword? (.node n) =
              .ok (decide (literal.value < 2 ^ 63) && test.holds literal.value bound.toInt) := by
  have hvalue : (integerValue? literal.text).map Int64.toInt =
      if literal.value < 2 ^ 63 then some (literal.value : Int) else none := by
    rw [literal.integerValue?_eq, map_toInt_toInt64?]
  refine ⟨hvalue, fun s n hkind htext => ?_⟩
  have hnumber := number?_reduce_of_kind hkind
  rw [htext] at hnumber
  refine ⟨hnumber, fun test htest base bound => ?_⟩
  have hanswer : ((integerValue? literal.text).map Int64.toInt).any
      (fun found => test.holds found bound.toInt) =
        (decide (literal.value < 2 ^ 63) && test.holds literal.value bound.toInt) := by
    rw [hvalue]
    by_cases hfits : literal.value < 2 ^ 63
    · rw [if_pos hfits, decide_eq_true hfits]
      rfl
    · rw [if_neg hfits, decide_eq_false hfits]
      rfl
  rw [← hanswer]
  exact holds_of_mem_numericTests hnumber htest base bound

/-- The largest value that fits, in hexadecimal digits with an underscore behind the first. -/
def largestLiteral : IntegerLiteral where
  radix := .hexadecimal
  figures := some ⟨(7 : Fin 16), false⟩ :: none :: List.replicate 15 (some ⟨(15 : Fin 16), true⟩)
  type? := some ⟨false, .bits64⟩
  hasDigit := List.cons_ne_nil _ _
  startsWithDigit h := nomatch h

/-- A source text that is this literal. -/
def largestTree : SyntaxTree :=
  ofRows [] "0x7_FFFFFFFFFFFFFFFu64" #[⟨"integer_literal", true, none, 0, 22, none⟩]

/-- The largest value is read as it is, and is greater than zero. -/
theorem IntegerLiteral.value_or_none_largest :
    (largestTree.row 0).kind = "integer_literal" ∧
      (largestTree.text 0).toList = largestLiteral.text ∧
      (integerValue? largestLiteral.text).map Int64.toInt = some 9223372036854775807 ∧
      (Value.integer 0).holds largestTree.tree 0 .greater (.node 0) = .ok true := by
  have htext : (largestTree.text 0).toList = largestLiteral.text := by decide
  have hvalue : largestLiteral.value = 9223372036854775807 := by decide
  obtain ⟨hread, hnode⟩ := largestLiteral.value_or_none
  rw [hvalue] at hread hnode
  obtain ⟨-, htests⟩ := hnode largestTree 0 rfl htext
  have hgreater :
      ⟨.greater, some .greater, fun found expected => expected < found⟩ ∈ numericTests :=
    List.mem_cons_of_mem _ List.mem_cons_self
  exact ⟨rfl, htext, hread, (htests _ hgreater 0 0).1⟩

end SyntaxTree

end TreeQuery
