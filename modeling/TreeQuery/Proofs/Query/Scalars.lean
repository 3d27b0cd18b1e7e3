import TreeQuery.Proofs.Query.Words

/-!
# Scalars and legible queries

A scalar is scanned from its spelling and one of a few characters behind it, and whatever is
scanned as a scalar is one as it is written. The only scalars that are not read back are doubles
that are not finite: they are spelled by words that mean identifiers.

A grammatical query is legible when no two parts of an attribute run together in its text. Nothing
separates a key from its operator and an operator from its value, so that a star at the end of the
key is taken for a part of the operator, or a sign at the front of the value. An empty key leaves
nothing to be read at all, an identifier that begins as a kind is taken for a selector, and a double
that is not finite has no text that is read back.

## Main definitions and results

* `scanScalar_spelling`: **a finite scalar is scanned from its spelling**.
* `ScansScalar.isWritten`: what is scanned as a scalar is one as it is written.
* `ofWord_literalText_of_not_isFinite`: a double that is not finite is not read back.
* `Query.isLegible` — no attribute runs together, at any depth.
* `Query.isPrintable` — the query is grammatical and legible.
-/

namespace TreeQuery

/-! ### Quoted texts -/

/-- A quoted text ends at its closing quote. -/
theorem readQuoted_closing (closing : Char) (rest : List Char) :
    readQuoted closing (closing :: rest) = some ([], rest) := by
  rw [readQuoted.eq_def]
  exact if_pos rfl

/-- A character of a quoted text that is neither the quote nor a backslash stands for itself. -/
theorem readQuoted_plain {closing c : Char} (hclosing : c ≠ closing) (hescape : c ≠ '\\')
    (rest : List Char) :
    readQuoted closing (c :: rest) =
      (readQuoted closing rest).map fun (text, behind) => (c :: text, behind) := by
  rw [readQuoted.eq_def]
  exact (if_neg hclosing).trans (if_neg hescape)

/-- **A quoted text is read with its escapes resolved**, up to the closing quote. -/
theorem readQuoted_quote (text rest : List Char) :
    readQuoted '"' ((text.flatMap fun c => if c = '"' ∨ c = '\\' then ['\\', c] else [c]) ++
      '"' :: rest) = some (text, rest) := by
  induction text with
  | nil => exact readQuoted_closing '"' rest
  | cons c text ih =>
    rw [List.flatMap_cons, List.append_assoc]
    split
    · rename_i hescaped
      have hmeaning : unescape c = c := by rcases hescaped with rfl | rfl <;> rfl
      simp [readQuoted, ih, hmeaning]
    · rename_i hplain
      rw [not_or] at hplain
      rw [List.singleton_append, readQuoted_plain hplain.1 hplain.2, ih, Option.map_some]

/-! ### Patterns -/

/-- The source of a regular expression ends at a slash. -/
theorem readPatternSource_closing (rest : List Char) :
    readPatternSource ('/' :: rest) = some ([], rest) := by
  rw [readPatternSource.eq_def]
  exact if_pos rfl

/-- A character of a source that is neither a slash nor a backslash stands for itself. -/
theorem readPatternSource_plain {c : Char} (hslash : c ≠ '/') (hescape : c ≠ '\\')
    (rest : List Char) :
    readPatternSource (c :: rest) =
      (readPatternSource rest).map fun (source, behind) => (c :: source, behind) := by
  rw [readPatternSource.eq_def]
  exact (if_neg hslash).trans (if_neg hescape)

/-- A pattern keeps the source and the flags from which it is built. -/
theorem Pattern.source_flags_of_ofSource? {source flags : String} {p : Pattern}
    (h : Pattern.ofSource? source flags = some p) : p.source = source ∧ p.flags = flags := by
  unfold ofSource? at h
  split at h
  · cases h
    exact ⟨rfl, rfl⟩
  · cases h

/-- What is read between slashes is a text that is read back. -/
theorem isPatternSource_of_readPatternSource {text source behind : List Char}
    (h : readPatternSource text = some (source, behind)) : isPatternSource source = true := by
  fun_induction readPatternSource text generalizing source with
  | case1 => cases h
  | case2 rest =>
    cases h
    rfl
  | case3 => cases h
  | case4 hslash escaped rest ih =>
    obtain ⟨⟨source', behind'⟩, hread, hpair⟩ := Option.map_eq_some_iff.mp h
    obtain ⟨rfl, rfl⟩ := Prod.mk.inj hpair
    have := ih hread
    split
    · simpa [isPatternSource] using this
    · rename_i hne
      simpa [isPatternSource, hne] using this
  | case5 c rest hslash hescape ih =>
    obtain ⟨⟨source', behind'⟩, hread, hpair⟩ := Option.map_eq_some_iff.mp h
    obtain ⟨rfl, rfl⟩ := Prod.mk.inj hpair
    have := ih hread
    simpa [isPatternSource, hescape] using this

/-- **The text of a pattern is read up to the closing slash**, with a backslash before each slash
in it. -/
theorem readPatternSource_append {source : List Char} (h : isPatternSource source = true)
    (rest : List Char) :
    readPatternSource ((source.flatMap fun c => if c = '/' then ['\\', '/'] else [c]) ++
      '/' :: rest) = some (source, rest) := by
  fun_induction isPatternSource source with
  | case1 => exact readPatternSource_closing rest
  | case2 => cases h
  | case3 c source hne ih =>
    simp only [imp_false] at hne
    simp [readPatternSource, hne, ih h]
  | case4 => cases h
  | case5 c source _ hescaped hlast ih =>
    by_cases hslash : c = '/'
    · subst hslash
      simp [readPatternSource, ih h]
    · have hescape : c ≠ '\\' := by
        rintro rfl
        cases source with
        | nil => exact hlast rfl rfl
        | cons d source => exact hescaped d source rfl rfl
      rw [List.flatMap_cons, if_neg hslash, List.append_assoc, List.singleton_append,
        readPatternSource_plain hslash hescape, ih h, Option.map_some]

/-! ### Where scalars end -/

/-- The characters that stand behind a scalar: the blank between elements, and the two marks that
close an array and an attribute. -/
def endsScalar (c : Char) : Bool := c == ' ' || c == ')' || c == ']'

/-- What ends a scalar ends a word, and opens no brackets in one. -/
theorem endsWord_of_endsScalar {c : Char} (h : endsScalar c = true) :
    endsWord c = true ∧ c ≠ '[' := by
  simp only [endsScalar, Bool.or_eq_true, beq_iff_eq] at h
  rcases h with (rfl | rfl) | rfl <;> decide

/-! ### Scanning scalars -/

/-- A word is scanned as it stands, up to a character that ends it. -/
theorem scanScalar_word {c : Char} {word rest : List Char} (h : isWord (c :: word) = true)
    (hrest : ∀ d ∈ rest.head?, endsWord d = true ∧ d ≠ '[') (modes : Modes) (offset : Nat) :
    scanScalar modes offset c (word ++ rest) =
      .ok (.word (String.ofList (c :: word)), rest, modes) := by
  obtain ⟨hword, hhead⟩ := isWord_iff.mp h
  obtain ⟨hdouble, hsingle, hslash⟩ : c ≠ '"' ∧ c ≠ '\'' ∧ c ≠ '/' := by simpa using hhead
  have hread := readWord_append hword hrest
  rw [List.cons_append] at hread
  rw [scanScalar, if_neg (not_or.mpr ⟨hdouble, hsingle⟩), if_neg hslash, hread]

/-- What begins a scalar: no blank, and none of the marks that open or close an array or an
attribute. -/
structure BeginsScalar (c : Char) : Prop where
  /-- It is no blank. -/
  not_blank : Text.isBlank c = false
  /-- It opens no array. -/
  not_open : c ≠ '('
  /-- It closes none. -/
  not_close : c ≠ ')'

/-- A word begins as a scalar does. -/
theorem BeginsScalar.of_isWord {c : Char} {word : List Char} (h : isWord (c :: word) = true) :
    BeginsScalar c := by
  obtain ⟨hword, -⟩ := isWord_iff.mp h
  have hends : endsWord c = true → c = '[' := by
    intro hends
    by_contra hopen
    rw [readWord.eq_2 _ _ (fun _ hc => absurd hc hopen), if_pos hends] at hword
    cases hword
  refine ⟨?_, ?_, ?_⟩
  · by_contra hblank
    rw [Bool.not_eq_false] at hblank
    obtain rfl := hends (by simp [endsWord, hblank])
    exact absurd hblank (by decide)
  · rintro rfl
    exact absurd (hends (by decide)) (by decide)
  · rintro rfl
    exact absurd (hends (by decide)) (by decide)

/-- A quoted text is scanned up to its closing quote. -/
theorem scanScalar_quote (text : String) (rest : List Char) (modes : Modes) (offset : Nat) :
    scanScalar modes offset '"' ((quote text.toList).tail ++ rest) =
      .ok (.text text, rest, modes) := by
  have hread := readQuoted_quote text.toList rest
  rw [scanScalar, if_pos (.inl rfl), quote]
  simp only [List.cons_append, List.tail_cons, List.append_assoc, List.nil_append, hread,
    String.ofList_toList]

/-- A pattern is scanned with its flags, up to a character that is none. -/
theorem scanScalar_pattern {p : Pattern} (hsource : isPatternSource p.source.toList = true)
    (hflags : ∀ c ∈ p.flags.toList, isPatternFlag c = true) {rest : List Char}
    (hrest : ∀ d ∈ rest.head?, isPatternFlag d = false) (modes : Modes) (offset : Nat) :
    scanScalar modes offset '/' (p.spelling.tail ++ rest) =
      .ok (.pattern p.source p.flags, rest, modes) := by
  have hread := readPatternSource_append hsource (p.flags.toList ++ rest)
  obtain ⟨hrun, hbehind⟩ := takeWhile_append_of_stop hflags hrest
  rw [scanScalar, if_neg (by decide), if_pos rfl, Pattern.spelling]
  simp only [List.cons_append, List.tail_cons, List.append_assoc, hread, hrun, hbehind,
    String.ofList_toList]

/-- **A finite scalar is scanned from its spelling**, whatever its kind. -/
theorem scanScalar_spelling {value : Value} (hscalar : value.isScalar = true)
    (hfinite : value.isFinite = true) :
    ∃ c text lexeme, value.spelling = c :: text ∧ BeginsScalar c ∧
      lexeme.part? = some (.scalar value) ∧
      ∀ rest, (∀ d ∈ rest.head?, endsScalar d = true) → ∀ modes offset,
        scanScalar modes offset c (text ++ rest) = .ok (lexeme, rest, modes) := by
  by_cases hword : value.isWordLike = true
  · have hspelled := Value.isWord_spelling hword hscalar hfinite
    have hmeaning := Value.ofWord_spelling hword hscalar hfinite
    obtain ⟨-, c, hhead, -⟩ := isWord_iff.mp hspelled
    obtain ⟨text, htext⟩ := List.head?_eq_some_iff.mp hhead
    rw [htext] at hspelled hmeaning
    refine ⟨c, text, .word (String.ofList (c :: text)), htext, .of_isWord hspelled, ?_, ?_⟩
    · rw [Lexeme.part?, hmeaning]
    · intro rest hrest modes offset
      exact scanScalar_word hspelled (fun d hd => endsWord_of_endsScalar (hrest d hd)) modes offset
  · cases value with
    | text value =>
      have hmeaning : Value.ofQuoted value = .text value := by
        simpa [Value.isScalar, Value.ofQuoted] using hscalar
      exact ⟨'"', _, .text value, rfl, ⟨by decide, by decide, by decide⟩,
        congrArg (some ∘ Part.scalar) hmeaning, fun rest _ => scanScalar_quote value rest⟩
    | template value =>
      have hmeaning : Value.ofQuoted value = .template value := by
        simpa [Value.isScalar, Value.ofQuoted] using hscalar
      exact ⟨'"', _, .text value, rfl, ⟨by decide, by decide, by decide⟩,
        congrArg (some ∘ Part.scalar) hmeaning, fun rest _ => scanScalar_quote value rest⟩
    | pattern p =>
      obtain ⟨hsource, hflags⟩ := Bool.and_eq_true_iff.mp hscalar
      refine ⟨'/', _, .pattern p.source p.flags, rfl, ⟨by decide, by decide, by decide⟩, ?_, ?_⟩
      · rw [Lexeme.part?, Pattern.ofSource?_source_flags]
        rfl
      · intro rest hrest
        refine scanScalar_pattern hsource (List.all_eq_true.mp hflags) fun d hd => ?_
        have := hrest d hd
        simp only [endsScalar, Bool.or_eq_true, beq_iff_eq] at this
        rcases this with (rfl | rfl) | rfl <;> rfl
    | array items => cases hscalar
    | selector s => cases hscalar
    | _ => exact absurd rfl hword

/-- What is scanned as a scalar is one as it is written. -/
theorem ScansScalar.isWritten {c : Char} {rest behind : List Char} {lexeme : Lexeme}
    (h : ScansScalar c rest lexeme behind) : ∀ part ∈ lexeme.part?, part.isWritten = true := by
  cases h with
  | text =>
    rintro _ ⟨⟩
    rw [Part.isWritten, Value.ofQuoted]
    split <;> simp_all [Value.isScalar]
  | pattern _ hread =>
    intro part hpart
    obtain ⟨p, hp, rfl⟩ := Option.map_eq_some_iff.mp hpart
    obtain ⟨hsource, hflags⟩ := Pattern.source_flags_of_ofSource? hp
    rw [Part.isWritten, Value.isScalar, hsource, hflags, String.toList_ofList,
      String.toList_ofList, isPatternSource_of_readPatternSource hread]
    simp
  | word hquote hslash hread hne =>
    rintro _ ⟨⟩
    refine Value.isScalar_ofWord (isWord_iff.mpr ?_)
    rw [String.toList_ofList]
    refine ⟨readWord_fst hread, c, readWord_head hread hne, ?_⟩
    rw [not_or] at hquote
    exact ⟨hquote.1, hquote.2, hslash⟩

/-! ### Doubles that are not finite -/

/-- A double that is not finite has one of three texts. -/
theorem Binary64.literalText_of_not_isFinite {x : Binary64} (h : x.isFinite = false) :
    x.literalText = "NaN" ∨ x.literalText = "inf" ∨ x.literalText = "-inf" := by
  have hrank : infinityRank ≤ x.rank := Nat.le_of_not_lt (of_decide_eq_false h)
  unfold literalText signedText
  split
  · exact .inl rfl
  · rename_i hnan
    have hinfinite : x.isInfinite = true := by
      have : ¬ infinityRank < x.rank := fun hlt => hnan (decide_eq_true hlt)
      exact beq_iff_eq.mpr (by omega)
    rw [hinfinite]
    cases x.negative
    · exact .inr (.inl rfl)
    · exact .inr (.inr rfl)

/-- **The text of a double that is not finite is a word that means an identifier.** -/
theorem ofWord_literalText_of_not_isFinite {x : Binary64} (h : x.isFinite = false) :
    isWord x.literalText.toList = true ∧
      Value.ofWord x.literalText = .identifier x.literalText := by
  rcases x.literalText_of_not_isFinite h with htext | htext | htext <;> rw [htext]
  · exact ⟨by decide, by simp [Value.ofWord, looksNumeric]⟩
  · exact ⟨by decide, by simp [Value.ofWord, looksNumeric]⟩
  · exact ⟨by decide, by simp [Value.ofWord, looksNumeric]⟩

/-! ### Legible queries -/

/-- Whether a text begins as a kind does. -/
def beginsKind : List Char → Bool
  | '.' :: c :: _ => isNameStart c
  | _ => false

/-- Whether a key is read up to the operator behind it: it is not empty, and a star that ends it is
not taken for a part of an operator that begins with an equals sign. -/
def KeyPath.keepsFrom (key : KeyPath) (operator : Operator) : Bool :=
  !key.segments.isEmpty &&
    !(key.spelling.getLast? == some '*' && (operator == .equal || operator == .like))

/-- Whether an operator is read up to the text of the value behind it: the text does not begin with
a sign that makes the operator longer. -/
def Operator.keepsFrom (operator : Operator) (text : List Char) : Bool :=
  match operator with
  | .equal => text.head? != some '=' && text.head? != some '~'
  | .greater | .less => text.head? != some '='
  | _ => true

/-- Whether the doubles among a value and its elements are finite, and an identifier is not taken
for a selector. -/
def Value.isLegible : Value → Bool
  | .array items => items.all Value.isFinite
  | .identifier word => !beginsKind word.toList
  | value => value.isFinite

/-- What legibility demands of the parts of a query. -/
def legibility : Demands where
  onAttribute a :=
    a.key.keepsFrom a.operator && a.operator.keepsFrom a.value.spelling && a.value.isLegible
  onSelector _ := true
  onPseudoTest _ := true

/-- Whether no attribute of a query runs together in its text. -/
def Query.isLegible (query : Query) : Bool := Chain.allMeet legibility query

/-- Whether a query is read back from its text. -/
def Query.isPrintable (query : Query) : Bool := query.isGrammatical && query.isLegible

end TreeQuery
