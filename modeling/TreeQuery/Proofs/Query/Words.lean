import TreeQuery.Proofs.Query.KeyPaths
import TreeQuery.Query.Spelling

/-!
# Words, quoted texts and patterns

The three forms of scalars are read up to their ends: a word up to a character that ends it, a
quoted text up to its quote, a pattern up to its slash. What is read stands for a scalar as it is
written, and what a scalar is written as is read as that scalar.

## Main results

* `Value.isScalar_ofWord`: a word stands for a scalar as it is written.
* `Value.ofWord_spelling`: **the word that spells a scalar means that scalar**.
* `readWord_append`, `readQuoted_quote`, `readPatternSource_append`: spellings are read whole.
-/

namespace TreeQuery

/-! ### Words -/

/-- A word is read up to a character that ends it. A bracket ends it only when no bracket that
closes it follows, so that it may not open what is behind. -/
theorem readWord_append {word rest : List Char} (h : readWord word = (word, []))
    (hrest : ∀ c ∈ rest.head?, endsWord c = true ∧ c ≠ '[') :
    readWord (word ++ rest) = (word, rest) := by
  fun_induction readWord word with
  | case1 inner word behind heq ih =>
    obtain ⟨hword, rfl⟩ := Prod.mk.inj h
    obtain rfl : word = inner := by simpa using hword
    rw [List.cons_append, List.cons_append, readWord, ih heq]
  | case2 c inner _ hends => cases h
  | case3 c inner _ hends word behind heq ih =>
    obtain ⟨hword, rfl⟩ := Prod.mk.inj h
    obtain rfl : word = inner := by simpa using hword
    have hopen : c ≠ '[' := by
      rintro rfl
      exact hends (by decide)
    rw [List.cons_append, readWord.eq_2 _ _ (fun _ hc => absurd hc hopen), if_neg hends, ih heq]
  | case4 =>
    cases rest with
    | nil => rfl
    | cons c rest =>
      obtain ⟨hends, hopen⟩ := hrest c rfl
      rw [List.nil_append, readWord.eq_2 _ _ (fun _ hc => absurd hc hopen), if_pos hends]

/-- What is read as a word is a word on its own. -/
theorem readWord_fst {text word behind : List Char} (h : readWord text = (word, behind)) :
    readWord word = (word, []) := by
  fun_induction readWord text generalizing word with
  | case1 inner word' behind' heq ih =>
    obtain ⟨rfl, rfl⟩ := Prod.mk.inj h
    rw [readWord, ih heq]
  | case2 c inner _ hends =>
    obtain ⟨rfl, rfl⟩ := Prod.mk.inj h
    rfl
  | case3 c inner _ hends word' behind' heq ih =>
    obtain ⟨rfl, rfl⟩ := Prod.mk.inj h
    have hopen : c ≠ '[' := by
      rintro rfl
      exact hends (by decide)
    rw [readWord.eq_2 _ _ (fun _ hc => absurd hc hopen), if_neg hends, ih heq]
  | case4 =>
    obtain ⟨rfl, rfl⟩ := Prod.mk.inj h
    rfl

/-- A word that is not empty begins as the text does. -/
theorem readWord_head {c : Char} {rest word behind : List Char}
    (h : readWord (c :: rest) = (word, behind)) (hne : word ≠ []) : word.head? = some c := by
  unfold readWord at h
  split at h
  · rename_i heq
    obtain ⟨rfl, -⟩ := List.cons.inj heq
    obtain ⟨rfl, -⟩ := Prod.mk.inj h
    rfl
  · rename_i heq
    obtain ⟨rfl, rfl⟩ := List.cons.inj heq
    split at h
    · exact absurd (Prod.mk.inj h).1.symm hne
    · obtain ⟨rfl, -⟩ := Prod.mk.inj h
      rfl
  · rename_i heq
    cases heq

/-- Characters none of which ends a word are one. -/
theorem readWord_of_forall {word : List Char} (h : ∀ c ∈ word, endsWord c = false) :
    readWord word = (word, []) := by
  induction word with
  | nil => rfl
  | cons c rest ih =>
    have hc := h c List.mem_cons_self
    have hopen : c ≠ '[' := by
      rintro rfl
      exact absurd hc (by decide)
    rw [readWord.eq_2 _ _ (fun _ hc => absurd hc hopen), if_neg (by simp [hc]),
      ih fun d hd => h d (List.mem_cons_of_mem _ hd)]

/-- A text is a word if it is read to its end as one, and begins neither a quoted text nor a
regular expression. -/
theorem isWord_iff {text : List Char} :
    isWord text = true ↔
      readWord text = (text, []) ∧ ∃ c ∈ text.head?, c ≠ '"' ∧ c ≠ '\'' ∧ c ≠ '/' := by
  cases text <;> simp [isWord, and_assoc]

/-! ### The meaning of words -/

namespace Value

/-- A word that means an identifier is the identifier. -/
theorem ofWord_eq_identifier {word text : String} (h : ofWord word = .identifier text) :
    text = word := by
  unfold ofWord at h
  split at h
  · cases h
  · cases h
  · cases h
  · cases h
  · split at h
    · split at h
      · cases h
      · cases h
      · exact (Value.identifier.inj h).symm
    · exact (Value.identifier.inj h).symm

/-- A word that means a symbol is its name behind a colon. -/
theorem ofWord_eq_symbol {word text : String} (h : ofWord word = .symbol text) :
    word.toList = ':' :: text.toList ∧ text.toList ≠ [] := by
  unfold ofWord at h
  split at h
  · cases h
  · cases h
  · cases h
  · rename_i hword
    obtain rfl := Value.symbol.inj h
    rw [hword, String.toList_ofList]
    exact ⟨rfl, by simp⟩
  · split at h
    · split at h <;> cases h
    · cases h

/-- A word has one of six meanings. -/
theorem ofWord_cases (word : String) :
    (∃ text, ofWord word = .identifier text) ∨ (∃ text, ofWord word = .symbol text) ∨
      (∃ value, ofWord word = .integer value) ∨ (∃ value, ofWord word = .float value) ∨
      (∃ value, ofWord word = .boolean value) ∨ ofWord word = .nil := by
  unfold ofWord
  split
  · simp
  · simp
  · simp
  · simp
  · split
    · split <;> simp
    · simp

/-- **A word stands for a scalar as it is written.** -/
theorem isScalar_ofWord {word : String} (h : isWord word.toList = true) :
    (ofWord word).isScalar = true := by
  rcases ofWord_cases word with ⟨text, hvalue⟩ | ⟨text, hvalue⟩ | ⟨value, hvalue⟩ |
    ⟨value, hvalue⟩ | ⟨value, hvalue⟩ | hvalue
  · obtain rfl := ofWord_eq_identifier hvalue
    rw [hvalue, isScalar, h, hvalue]
    simp [Value.beq]
  · obtain ⟨hword, hne⟩ := ofWord_eq_symbol hvalue
    rw [hvalue, isScalar, ← hword, h]
    simpa using hne
  · rw [hvalue]
    rfl
  · rw [hvalue]
    rfl
  · rw [hvalue]
    rfl
  · rw [hvalue]
    rfl

/-- A number is what a text means that looks like one and is none of the reserved words. -/
theorem ofWord_of_looksNumeric {word : String} (h : looksNumeric word.toList = true) :
    ofWord word =
      match readInt64? 10 word.toList, readBinary64? word.toList with
      | some value, _ => .integer value
      | none, some value => .float value
      | none, none => .identifier word := by
  unfold ofWord
  split
  · rename_i heq
    rw [heq] at h
    cases h
  · rename_i heq
    rw [heq] at h
    cases h
  · rename_i heq
    rw [heq] at h
    cases h
  · rename_i heq
    rw [heq] at h
    cases h
  · exact if_pos h

/-- What begins with a digit looks numeric. -/
theorem looksNumeric_of_isDigit {text : List Char} (h : ∃ c ∈ text.head?, c.isDigit = true) :
    looksNumeric text = true := by
  obtain ⟨c, hc, hdigit⟩ := h
  obtain ⟨rest, rfl⟩ := List.head?_eq_some_iff.mp hc
  unfold looksNumeric
  split
  · rename_i heq
    obtain ⟨rfl, rfl⟩ := List.cons.inj heq
    cases hdigit
  · rename_i heq
    obtain ⟨rfl, rfl⟩ := List.cons.inj heq
    exact hdigit
  · rename_i heq
    cases heq

/-- What begins with a minus sign and a digit looks numeric. -/
theorem looksNumeric_minus {text : List Char} (h : ∃ c ∈ text.head?, c.isDigit = true) :
    looksNumeric ('-' :: text) = true := by
  obtain ⟨c, hc, hdigit⟩ := h
  obtain ⟨rest, rfl⟩ := List.head?_eq_some_iff.mp hc
  exact hdigit

/-- The spelling of an integer looks numeric. -/
theorem looksNumeric_integerSpelling (n : Int) : looksNumeric (integerSpelling n) = true := by
  have hdigits : ∃ c ∈ (Nat.toDigits 10 n.natAbs).head?, c.isDigit = true := by
    simpa using head?_toDigits n.natAbs []
  unfold integerSpelling
  split
  · exact looksNumeric_minus hdigits
  · exact looksNumeric_of_isDigit hdigits

/-- The text of a finite double looks numeric. -/
theorem looksNumeric_literalText {x : Binary64} (h : x.isFinite = true) :
    looksNumeric x.literalText.toList = true := by
  rw [Binary64.literalText_toList h]
  split
  · exact looksNumeric_minus (Binary64.head?_magnitudeText _)
  · exact looksNumeric_of_isDigit (Binary64.head?_magnitudeText _)

/-! ### Numbers as words -/

/-- No character of a numeral ends a word. -/
theorem not_endsWord_of_isNumeralChar {c : Char} (h : Decimal.isNumeralChar c = true) :
    endsWord c = false := by
  simp only [Decimal.isNumeralChar, Bool.or_eq_true, beq_iff_eq] at h
  rcases h with ((hdigit | rfl) | rfl) | rfl
  · exact not_endsWord_of_isDigit hdigit
  · decide
  · decide
  · decide

/-- A text that looks like a number and has its characters only is one word. -/
theorem isWord_of_isNumeralChar {text : List Char} (hlooks : looksNumeric text = true)
    (h : ∀ c ∈ text, Decimal.isNumeralChar c = true) : isWord text = true := by
  refine isWord_iff.mpr ⟨readWord_of_forall fun c hc => not_endsWord_of_isNumeralChar (h c hc), ?_⟩
  cases text with
  | nil => cases hlooks
  | cons c rest =>
    refine ⟨c, rfl, ?_⟩
    have hc := h c List.mem_cons_self
    refine ⟨?_, ?_, ?_⟩ <;> rintro rfl <;> exact absurd hc (by decide)

/-- The spelling of an integer is a word. -/
theorem isWord_integerSpelling (n : Int) : isWord (integerSpelling n) = true :=
  isWord_of_isNumeralChar (looksNumeric_integerSpelling n)
    fun _ => Decimal.isNumeralChar_of_mem_integerSpelling

/-- The text of a finite double is a word. -/
theorem isWord_literalText {x : Binary64} (h : x.isFinite = true) :
    isWord x.literalText.toList = true := by
  refine isWord_of_isNumeralChar (looksNumeric_literalText h) fun c hc => ?_
  rw [Binary64.literalText_toList h] at hc
  split at hc
  · rcases List.mem_cons.mp hc with rfl | hc
    · rfl
    · exact Binary64.isNumeralChar_of_mem_magnitudeText hc
  · exact Binary64.isNumeralChar_of_mem_magnitudeText hc

/-- Whether a value is no double, or a finite one. -/
def isFinite : Value → Bool
  | .float x => x.isFinite
  | _ => true

/-- Whether a value is spelled by one word. -/
def isWordLike : Value → Bool
  | .identifier _ | .symbol _ | .integer _ | .float _ | .boolean _ | .nil => true
  | _ => false

/-- The spelling of a value that is written as a word is one, if its number is finite. -/
theorem isWord_spelling {value : Value} (hword : value.isWordLike = true)
    (hscalar : value.isScalar = true) (hfinite : value.isFinite = true) :
    isWord value.spelling = true := by
  cases value with
  | identifier text => exact (Bool.and_eq_true_iff.mp hscalar).1
  | symbol text => exact (Bool.and_eq_true_iff.mp hscalar).1
  | integer n => exact isWord_integerSpelling _
  | float x => exact isWord_literalText hfinite
  | boolean b => cases b <;> decide
  | nil => decide
  | _ => cases hword

/-- **The word that spells a scalar means that scalar.** -/
theorem ofWord_spelling {value : Value} (hword : value.isWordLike = true)
    (hscalar : value.isScalar = true) (hfinite : value.isFinite = true) :
    ofWord (String.ofList value.spelling) = value := by
  cases value with
  | identifier text =>
    obtain ⟨-, hbeq⟩ := Bool.and_eq_true_iff.mp hscalar
    rw [spelling, String.ofList_toList]
    rcases ofWord_cases text with ⟨text', h⟩ | ⟨text', h⟩ | ⟨n, h⟩ | ⟨x, h⟩ | ⟨b, h⟩ | h
    · rw [h, ofWord_eq_identifier h]
    all_goals
      rw [h] at hbeq
      cases hbeq
  | symbol text =>
    obtain ⟨-, hne⟩ := Bool.and_eq_true_iff.mp hscalar
    obtain ⟨c, rest, htext⟩ := List.exists_cons_of_ne_nil
      (show text.toList ≠ [] by simpa using hne)
    rw [ofWord, String.toList_ofList, spelling, htext]
    change Value.symbol (String.ofList (c :: rest)) = _
    rw [← htext, String.ofList_toList]
  | integer n =>
    have hlooks := looksNumeric_integerSpelling n.toInt
    rw [spelling, ofWord_of_looksNumeric (by rwa [String.toList_ofList]), String.toList_ofList,
      readInt64?_integerSpelling]
  | float x =>
    rw [spelling, String.ofList_toList, ofWord_of_looksNumeric (looksNumeric_literalText hfinite),
      readInt64?_literalText hfinite, readBinary64?_literalText hfinite]
  | boolean b => cases b <;> simp [spelling, ofWord]
  | nil => simp [spelling, ofWord]
  | _ => cases hword

end Value

end TreeQuery
