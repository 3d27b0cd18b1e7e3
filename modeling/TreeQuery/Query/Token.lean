import TreeQuery.Error
import TreeQuery.Text.Character
import TreeQuery.Text.Lowercase

/-!
# Tokens

The text of a query is first cut into tokens. A token is a lexeme together with the place of its
first character and whether a blank stands directly before it; the blank decides whether a
pseudo class or position belongs to the selector before it. The last token of a text is always
the end of the query.

Keys, unquoted values, quoted texts, regular expressions and operators are each read from the front
of a text, as far as they go. The classes of characters that decide how far overlap: a name goes on
with what it may begin with, a path holds every name, and no blank is a part of either. Digits go on
a name and a path and end no word, but begin no name.

## Main definitions and results

* `Lexeme`, `Token` — the units of query text.
* `readKey`, `readWord`, `readQuoted`, `readPatternSource`, `readSymbol`, `readWordOperator` — the
  readers, each of which leaves an end of the text (`readKey_suffix` and so on).
* `map_snd_readPatternSource` — a regular expression is read as far as a text between slashes.
-/

namespace TreeQuery

/-! ### Lexemes -/

/-- A unit of query text. -/
inductive Lexeme where
  /-- A kind, written behind a dot. -/
  | kind (name : String)
  /-- A key path before a selector. -/
  | scope (path : String)
  /-- The opening of an attribute. -/
  | openBracket
  /-- The end of an attribute. -/
  | closeBracket
  /-- The opening of an array or of the query of a pseudo class. -/
  | openParen
  /-- The end of what a parenthesis opened. -/
  | closeParen
  /-- The mark between alternatives. -/
  | comma
  /-- A combinator. -/
  | combinator (combinator : Combinator)
  /-- A pseudo class. -/
  | pseudo (pseudoClass : PseudoClass)
  /-- A position. -/
  | position (position : Position)
  /-- The key of an attribute. -/
  | key (path : String)
  /-- An operator. -/
  | operator (operator : Operator)
  /-- A quoted text with its escapes resolved. -/
  | text (value : String)
  /-- A regular expression and its flags. -/
  | pattern (source flags : String)
  /-- An unquoted value. -/
  | word (text : String)
  /-- The end of the text. -/
  | endOfQuery
  deriving DecidableEq

/-- A lexeme with its place. -/
structure Token where
  /-- The lexeme. -/
  lexeme : Lexeme
  /-- The place of its first character. -/
  offset : Nat
  /-- Whether a blank stands directly before it. -/
  spaced : Bool
  deriving DecidableEq

/-- How a lexeme is shown in messages. **Nothing is escaped**, so that this is not always the text
from which it was read. -/
def Lexeme.toText : Lexeme → String
  | kind name => "." ++ name
  | scope path => path
  | openBracket => "["
  | closeBracket => "]"
  | openParen => "("
  | closeParen => ")"
  | comma => ","
  | combinator c => c.sign.toString
  | pseudo p => ":" ++ p.name
  | position p => ":" ++ p.name
  | key path => path
  | operator op => op.symbol
  | text value => "\"" ++ value ++ "\""
  | pattern source flags => "/" ++ source ++ "/" ++ flags
  | word value => value
  | endOfQuery => "end of query"

/-! ### Character classes -/

/-- Whether a name may begin with the character. -/
def isNameStart (c : Char) : Bool := Text.isAlphabetic c || c == '_'

/-- Whether a name may go on with the character. -/
def isNameChar (c : Char) : Bool := Text.isAlphanumeric c || c == '_' || c == '-'

/-- Whether a key path may hold the character. -/
def isPathChar (c : Char) : Bool :=
  Text.isAlphanumeric c || c == '_' || c == '.' || c == '*' || c == '-'

/-- Whether a word operator may hold the character. -/
def isOperatorChar (c : Char) : Bool := Text.isAlphabetic c || c == '_'

/-- Whether the character ends an unquoted value. -/
def endsWord (c : Char) : Bool :=
  Text.isBlank c || c == '[' || c == ']' || c == '(' || c == ')' || c == ','

/-- Whether the letter is a flag of a regular expression. -/
def isPatternFlag (c : Char) : Bool := c == 'i' || c == 'm' || c == 'x'

/-- A name goes on with what it may begin with. -/
theorem isNameChar_of_isNameStart {c : Char} (h : isNameStart c = true) : isNameChar c = true := by
  simp only [isNameStart, Bool.or_eq_true] at h
  rcases h with h | h <;> simp [isNameChar, Text.isAlphanumeric, h]

/-- A key path holds what a name may begin with. -/
theorem isPathChar_of_isNameStart {c : Char} (h : isNameStart c = true) : isPathChar c = true := by
  simp only [isNameStart, Bool.or_eq_true] at h
  rcases h with h | h <;> simp [isPathChar, Text.isAlphanumeric, h]

/-- A key path holds every name. -/
theorem isPathChar_of_isNameChar {c : Char} (h : isNameChar c = true) : isPathChar c = true := by
  simp only [isNameChar, Bool.or_eq_true] at h
  rcases h with (h | h) | h <;> simp [isPathChar, h]

/-- A key path holds digits. -/
theorem isPathChar_of_isDigit {c : Char} (h : c.isDigit = true) : isPathChar c = true := by
  have hrange : ∀ n < 58, 48 ≤ n → Text.numeric.contains n = true := by decide
  simp only [Char.isDigit, Bool.and_eq_true, decide_eq_true_eq] at h
  have hnumeric := hrange c.toNat (Nat.lt_succ_of_le h.2) h.1
  simp [isPathChar, Text.isAlphanumeric, Text.isNumeric, hnumeric]

/-- No name begins with a digit. -/
theorem not_isNameStart_of_isDigit {c : Char} (h : c.isDigit = true) : isNameStart c = false := by
  have hrange : ∀ n < 58, 48 ≤ n → Text.alphabetic.contains n = false := by decide
  simp only [Char.isDigit, Bool.and_eq_true, decide_eq_true_eq] at h
  have halphabetic := hrange c.toNat (Nat.lt_succ_of_le h.2) h.1
  have hunderscore : c ≠ '_' := by
    rintro rfl
    exact absurd h.2 (by decide)
  simp [isNameStart, Text.isAlphabetic, halphabetic, hunderscore]

/-- A digit does not end a word. -/
theorem not_endsWord_of_isDigit {c : Char} (h : c.isDigit = true) : endsWord c = false := by
  have hrange : ∀ n < 58, 48 ≤ n → Text.blank.contains n = false := by decide
  have hne : ∀ d : Char, d.isDigit = false → c ≠ d := by
    rintro d hd rfl
    rw [h] at hd
    cases hd
  simp only [Char.isDigit, Bool.and_eq_true, decide_eq_true_eq] at h
  have hblank := hrange c.toNat (Nat.lt_succ_of_le h.2) h.1
  simp [endsWord, Text.isBlank, hblank, hne '[' rfl, hne ']' rfl, hne '(' rfl, hne ')' rfl,
    hne ',' rfl]

/-- No blank is a letter or a digit. -/
theorem isAlphanumeric_of_isBlank {c : Char} (h : Text.isBlank c = true) :
    Text.isAlphanumeric c = false := by
  have hranges : ∀ r ∈ Text.blank, ∀ n < r.2 + 1 - r.1,
      Text.alphabetic.contains (r.1 + n) = false ∧ Text.numeric.contains (r.1 + n) = false := by
    decide +kernel
  obtain ⟨r, hr, hfirst, hlast⟩ :=
    (Text.Ranges.contains_iff (show Text.Ranges.ascendingFrom 0 Text.blank = true by decide)).mp h
  have hc := hranges r hr (c.toNat - r.1) (by omega)
  rw [Nat.add_sub_cancel' hfirst] at hc
  rw [Text.isAlphanumeric, Text.isAlphabetic, Text.isNumeric, hc.1, hc.2]
  rfl

/-- A key path holds no blank. -/
theorem isBlank_eq_false_of_isPathChar {c : Char} (h : isPathChar c = true) :
    Text.isBlank c = false := by
  refine Bool.eq_false_iff.mpr fun hblank => ?_
  simp only [isPathChar, isAlphanumeric_of_isBlank hblank, Bool.false_or, Bool.or_eq_true,
    beq_iff_eq] at h
  rcases h with ((rfl | rfl) | rfl) | rfl <;> exact absurd hblank (by decide)

/-! ### Reading lexemes -/

/-- The key at the front of a text, and the rest. A star before an equals sign belongs to an
operator. -/
def readKey : List Char → List Char × List Char
  | [] => ([], [])
  | c :: rest =>
    if !isPathChar c || (c == '*' && rest.head? == some '=') then ([], c :: rest)
    else
      let (key, behind) := readKey rest
      (c :: key, behind)

/-- The unquoted value at the front of a text, and the rest. **A pair of brackets with nothing
between belongs to the word.** -/
def readWord : List Char → List Char × List Char
  | '[' :: ']' :: rest =>
    let (word, behind) := readWord rest
    ('[' :: ']' :: word, behind)
  | c :: rest =>
    if endsWord c then ([], c :: rest)
    else
      let (word, behind) := readWord rest
      (c :: word, behind)
  | [] => ([], [])

/-- The character for which an escaped one stands in a quoted text. -/
def unescape (c : Char) : Char := if c = 'n' then '\n' else if c = 't' then '\t' else c

/-- The quoted text up to its closing quote, escapes resolved, and what follows. -/
def readQuoted (closing : Char) : List Char → Option (List Char × List Char)
  | [] => none
  | c :: rest =>
    if c = closing then some ([], rest)
    else if c = '\\' then
      match rest with
      | [] => none
      | escaped :: rest =>
        (readQuoted closing rest).map fun (text, behind) => (unescape escaped :: text, behind)
    else (readQuoted closing rest).map fun (text, behind) => (c :: text, behind)

/-- The text of a regular expression up to its closing slash, and what follows. Escapes are kept,
but an escaped slash stands for itself. -/
def readPatternSource : List Char → Option (List Char × List Char)
  | [] => none
  | c :: rest =>
    if c = '/' then some ([], rest)
    else if c = '\\' then
      match rest with
      | [] => none
      | escaped :: rest =>
        (readPatternSource rest).map fun (source, behind) =>
          (if escaped = '/' then '/' :: source else '\\' :: escaped :: source, behind)
    else (readPatternSource rest).map fun (source, behind) => (c :: source, behind)

/-- The operator written with signs at the front of a text, two signs before one. -/
def readSymbol : List Char → Option (Operator × List Char)
  | '=' :: '=' :: rest => some (.equal, rest)
  | '!' :: '=' :: rest => some (.notEqual, rest)
  | '^' :: '=' :: rest => some (.startsWith, rest)
  | '$' :: '=' :: rest => some (.endsWith, rest)
  | '*' :: '=' :: rest => some (.contains, rest)
  | '>' :: '=' :: rest => some (.greaterOrEqual, rest)
  | '<' :: '=' :: rest => some (.lessOrEqual, rest)
  | '=' :: '~' :: rest => some (.like, rest)
  | '!' :: '~' :: rest => some (.unlike, rest)
  | '=' :: rest => some (.equal, rest)
  | '>' :: rest => some (.greater, rest)
  | '<' :: rest => some (.less, rest)
  | _ => none

/-- The operator written with words at the front of a text. Case does not matter, and a negation
may stand apart from the word that it negates. -/
def readWordOperator (offset : Nat) (text : List Char) : Except ParseError (Operator × List Char) :=
  let rest := text.dropWhile isOperatorChar
  match String.ofList (Text.lowercase (text.takeWhile isOperatorChar)) with
  | "in" => .ok (.memberOf, rest)
  | "includes" => .ok (.includes, rest)
  | "not_in" => .ok (.notMemberOf, rest)
  | "not_includes" => .ok (.notIncludes, rest)
  | "not" =>
    let behind := rest.dropWhile Text.isBlank
    match String.ofList (Text.lowercase (behind.takeWhile Text.isAlphabetic)) with
    | "in" => .ok (.notMemberOf, behind.dropWhile Text.isAlphabetic)
    | "includes" => .ok (.notIncludes, behind.dropWhile Text.isAlphabetic)
    | word => .error (.unexpectedToken ("not " ++ word) .operator offset)
  | word => .error (.unexpectedToken word .operator offset)

/-- The place matters to errors only. -/
theorem readWordOperator_place {offset : Nat} {text : List Char}
    {found : Operator × List Char}
    (h : readWordOperator offset text = .ok found) (offset' : Nat) :
    readWordOperator offset' text = .ok found := by
  unfold readWordOperator at h ⊢
  dsimp only at h ⊢
  split at h
  case h_5 => split at h <;> first | exact h | cases h
  case h_6 => cases h
  all_goals exact h

/-! ### What readers leave -/

/-- Reading a key leaves an end of the text. -/
theorem readKey_suffix (text : List Char) : (readKey text).2 <:+ text := by
  induction text with
  | nil => exact List.suffix_refl _
  | cons c rest ih =>
    unfold readKey
    split
    · exact List.suffix_refl _
    · exact ih.trans (List.suffix_cons c rest)

/-- Reading an unquoted value leaves an end of the text. -/
theorem readWord_suffix (text : List Char) : (readWord text).2 <:+ text := by
  fun_induction readWord text with
  | case1 rest _ _ heq ih =>
    rw [heq] at ih
    exact ih.trans ((List.suffix_cons _ rest).trans (List.suffix_cons _ _))
  | case2 => exact List.suffix_refl _
  | case3 c rest _ _ _ _ heq ih =>
    rw [heq] at ih
    exact ih.trans (List.suffix_cons c rest)
  | case4 => exact List.suffix_refl _

/-- A key that is not empty takes the first character at least. -/
theorem readKey_cons_suffix {c : Char} {rest key behind : List Char}
    (h : readKey (c :: rest) = (key, behind)) (hne : key ≠ []) : behind <:+ rest := by
  unfold readKey at h
  split at h
  · exact absurd (Prod.mk.inj h).1.symm hne
  · exact (Prod.mk.inj h).2 ▸ readKey_suffix rest

/-- An unquoted value that is not empty takes the first character at least. -/
theorem readWord_cons_suffix {c : Char} {rest word behind : List Char}
    (h : readWord (c :: rest) = (word, behind)) (hne : word ≠ []) : behind <:+ rest := by
  unfold readWord at h
  split at h
  · rename_i rest' heq
    obtain ⟨rfl, rfl⟩ := List.cons.inj heq
    exact (Prod.mk.inj h).2 ▸ (readWord_suffix rest').trans (List.suffix_cons _ _)
  · rename_i heq
    obtain ⟨rfl, rfl⟩ := List.cons.inj heq
    split at h
    · exact absurd (Prod.mk.inj h).1.symm hne
    · exact (Prod.mk.inj h).2 ▸ readWord_suffix _
  · rename_i heq
    cases heq

/-- A reading that adds to what another one has read leaves what that one leaves. -/
theorem exists_of_map_eq_some {f : List Char → List Char}
    {reading : Option (List Char × List Char)} {value behind : List Char}
    (h : reading.map (fun (part, behind) => (f part, behind)) = some (value, behind)) :
    ∃ part, reading = some (part, behind) ∧ f part = value := by
  obtain ⟨⟨part, rest⟩, hreading, hpair⟩ := Option.map_eq_some_iff.mp h
  obtain ⟨hvalue, rfl⟩ := Prod.mk.inj hpair
  exact ⟨part, hreading, hvalue⟩

/-- A quoted text is read up to its quote. -/
theorem exists_append_of_readQuoted {closing : Char} {text value behind : List Char}
    (h : readQuoted closing text = some (value, behind)) :
    ∃ front, text = front ++ closing :: behind := by
  fun_induction readQuoted closing text generalizing value with
  | case1 => cases h
  | case2 rest =>
    obtain ⟨-, rfl⟩ := Prod.mk.inj (Option.some.inj h)
    exact ⟨[], rfl⟩
  | case3 => cases h
  | case4 escaped rest _ ih =>
    obtain ⟨value', hread, -⟩ := exists_of_map_eq_some h
    obtain ⟨front, rfl⟩ := ih hread
    exact ⟨'\\' :: escaped :: front, rfl⟩
  | case5 c rest _ _ ih =>
    obtain ⟨value', hread, -⟩ := exists_of_map_eq_some h
    obtain ⟨front, rfl⟩ := ih hread
    exact ⟨c :: front, rfl⟩

/-- **A regular expression is read as far as a text between slashes.** What the two keep of an
escape is different. -/
theorem map_snd_readPatternSource (text : List Char) :
    (readPatternSource text).map Prod.snd = (readQuoted '/' text).map Prod.snd := by
  fun_induction readPatternSource text with
  | case1 => rfl
  | case2 rest =>
    rw [readQuoted.eq_def]
    simp
  | case3 => simp [readQuoted]
  | case4 escaped rest hclosing ih => simpa [readQuoted, Function.comp_def] using ih
  | case5 c rest hclosing hescape ih =>
    rw [readQuoted.eq_def]
    simpa [hclosing, hescape, Function.comp_def] using ih

/-- Where a regular expression is read, a text between slashes is read as far. -/
theorem exists_readQuoted_of_readPatternSource {text source behind : List Char}
    (h : readPatternSource text = some (source, behind)) :
    ∃ value, readQuoted '/' text = some (value, behind) := by
  have hsame := map_snd_readPatternSource text
  rw [h] at hsame
  obtain ⟨⟨value, behind'⟩, hread, rfl⟩ := Option.map_eq_some_iff.mp hsame.symm
  exact ⟨value, hread⟩

/-- Where no regular expression is read, no text between slashes is. -/
theorem readQuoted_of_readPatternSource_eq_none {text : List Char}
    (h : readPatternSource text = none) : readQuoted '/' text = none := by
  have hsame := map_snd_readPatternSource text
  rw [h] at hsame
  exact Option.map_eq_none_iff.mp hsame.symm

/-- Reading a quoted text leaves an end of the text. -/
theorem readQuoted_suffix {closing : Char} {text value behind : List Char}
    (h : readQuoted closing text = some (value, behind)) : behind <:+ text := by
  obtain ⟨front, rfl⟩ := exists_append_of_readQuoted h
  exact ⟨front ++ [closing], by simp⟩

/-- Reading a regular expression leaves an end of the text. -/
theorem readPatternSource_suffix {text source behind : List Char}
    (h : readPatternSource text = some (source, behind)) : behind <:+ text := by
  obtain ⟨value, hread⟩ := exists_readQuoted_of_readPatternSource h
  exact readQuoted_suffix hread

/-- Reading an operator written with signs takes the first character at least. -/
theorem readSymbol_suffix {c : Char} {rest behind : List Char} {operator : Operator}
    (h : readSymbol (c :: rest) = some (operator, behind)) : behind <:+ rest := by
  unfold readSymbol at h
  split at h <;> simp_all

/-- Reading an operator written with words takes all letters that stand in front. -/
theorem readWordOperator_suffix {offset : Nat} {text behind : List Char} {operator : Operator}
    (h : readWordOperator offset text = .ok (operator, behind)) :
    behind <:+ text.dropWhile isOperatorChar := by
  unfold readWordOperator at h
  dsimp only at h
  split at h
  all_goals try (cases h; exact List.suffix_refl _)
  · split at h
    all_goals try (cases h; exact (List.dropWhile_suffix _).trans (List.dropWhile_suffix _))
    cases h
  · cases h

end TreeQuery
