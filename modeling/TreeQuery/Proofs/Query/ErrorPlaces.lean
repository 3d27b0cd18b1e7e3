import TreeQuery.Proofs.Query.Cursors
import TreeQuery.Proofs.Query.Places

/-!
# Where errors point

A text that is no query is refused in one of two stages: no lexeme begins where one has to, or the
tokens are not those of a query. In either stage an error points into the text. Where the text has
to go on, it points at its end; any other error points at a character that is no blank, and at the
one that it is about.

## Main definitions and results

* `ParseError.Blames` — the characters that an error can be about.
* `ParseError.PointsInto` — an error points at the end of a text or at such a character in it.
* `Query.pointsInto_of_ofText`: **the error of a text points into it**, and one about a token is
  shown as that token.
-/

namespace TreeQuery

/-! ### Places and characters -/

/-- The error can be about the character. -/
def ParseError.Blames (c : Char) : ParseError → Prop
  | unexpectedChar char _ => char = c
  | unexpectedToken _ _ _ => True
  | unexpectedEnd _ _ => False
  | unterminated .string _ => c = '"' ∨ c = '\''
  | unterminated .regexp _ => c = '/'
  | invalidPattern _ => c = '/'

/-- The error is about the end of the text, or about a character in it that is no blank. -/
def ParseError.PointsInto (text : List Char) (error : ParseError) : Prop :=
  (∃ expected, error = .unexpectedEnd expected text.length) ∨
    ∃ h : error.offset < text.length,
      Text.isBlank text[error.offset] = false ∧ error.Blames text[error.offset]

/-- The error is about a character at a place. -/
def ParseError.BlamesAt (c : Char) (offset : Nat) (error : ParseError) : Prop :=
  error.offset = offset ∧ error.Blames c

variable {modes : Modes} {offset : Nat} {c : Char} {rest text : List Char} {error : ParseError}

/-- An error about a character that stands in the text and is no blank points into the text. -/
theorem ParseError.BlamesAt.pointsInto (h : error.BlamesAt c offset)
    (hplace : text[offset]? = some c)
    (hblank : Text.isBlank c = false) : error.PointsInto text := by
  obtain ⟨rfl, hblames⟩ := h
  obtain ⟨hlt, rfl⟩ := List.getElem?_eq_some_iff.mp hplace
  exact .inr ⟨hlt, hblank, hblames⟩

/-! ### Where no lexeme begins -/

/-- An error behind a colon is about the colon. -/
theorem blamesAt_of_scanColon (h : scanColon modes offset rest = .error error) :
    error.BlamesAt c offset := by
  unfold scanColon at h
  split at h <;> cases h
  exact ⟨rfl, trivial⟩

/-- An error about an operator that is a word is about the beginning of the word. -/
theorem blamesAt_of_readWordOperator (h : readWordOperator offset text = .error error) :
    error.BlamesAt c offset := by
  unfold readWordOperator at h
  dsimp only at h
  split at h
  case h_5 =>
    split at h <;> cases h
    exact ⟨rfl, trivial⟩
  all_goals
    cases h
  exact ⟨rfl, trivial⟩

/-- An error about a scalar is about its first character: the quote, the slash, or one with which
no word begins. -/
theorem blamesAt_of_scanScalar (h : scanScalar modes offset c rest = .error error) :
    error.BlamesAt c offset := by
  unfold scanScalar at h
  split at h
  · rename_i hquote
    split at h <;> cases h
    exact ⟨rfl, hquote⟩
  · split at h
    · rename_i hslash
      split at h <;> cases h
      exact ⟨rfl, hslash⟩
    · split at h <;> cases h
      exact ⟨rfl, rfl⟩

/-- An error in a chain is about the character at which no lexeme of a chain begins. -/
theorem blamesAt_of_scanSelector (h : scanSelector modes offset c rest = .error error) :
    error.BlamesAt c offset := by
  unfold scanSelector at h
  split at h
  · cases h
  · split at h
    case h_8 => exact blamesAt_of_scanColon h
    case h_9 =>
      split at h <;> cases h
      exact ⟨rfl, rfl⟩
    all_goals cases h

/-- An error about an operator is about the character at which no operator begins. -/
theorem blamesAt_of_scanOperator (h : scanOperator modes offset c rest = .error error) :
    error.BlamesAt c offset := by
  unfold scanOperator at h
  split at h
  · cases h
  · split at h
    · split at h <;> cases h
      rename_i hread
      exact blamesAt_of_readWordOperator hread
    · cases h
      exact ⟨rfl, rfl⟩

/-- **Where no lexeme begins, the character there is blamed**, in every mode. -/
theorem blamesAt_of_scan (h : scan modes offset c rest = .error error) :
    error.BlamesAt c offset := by
  unfold scan at h
  split at h
  · exact blamesAt_of_scanSelector h
  · unfold scanValueSelector at h
    split at h
    case h_3 => exact blamesAt_of_scanColon h
    all_goals cases h
  · unfold scanKey at h
    split at h <;> cases h
    exact ⟨rfl, rfl⟩
  · exact blamesAt_of_scanOperator h
  · unfold scanValue at h
    dsimp only at h
    split at h
    · cases h
    · split at h
      · cases h
      · exact blamesAt_of_scanScalar h
  · unfold scanArray at h
    split at h
    · cases h
    · exact blamesAt_of_scanScalar h
  · unfold scanAttributeEnd at h
    split at h <;> cases h
    exact ⟨rfl, rfl⟩

/-- An error of the lexer points into the text in which it stands. -/
theorem Cursor.IsIn.pointsInto {cursor : Cursor} (h : cursor.IsIn text)
    (hnext : cursor.next = .error error) : error.PointsInto text := by
  cases Cursor.next_eq_iff.mp hnext with
  | misses hblanks hexpected => exact .inl ⟨_, by rw [h.length]⟩
  | fails hblanks hc hrest hscan =>
    exact (blamesAt_of_scan hscan).pointsInto (h.getElem? hrest) hc

/-- **A text that cannot be cut into tokens is refused at a place in it.** -/
theorem Cursor.IsIn.pointsInto_of_tokensFrom {cursor : Cursor} (h : cursor.IsIn text)
    (htokens : tokensFrom cursor = .error error) : error.PointsInto text := by
  fun_induction tokensFrom cursor with
  | case1 cursor _ hnext =>
    cases htokens
    exact h.pointsInto hnext
  | case2 cursor token behind hnext hlast => cases htokens
  | case3 cursor token behind hnext hlast _ tokens hrest => cases htokens
  | case4 cursor token behind hnext hlast _ _ hrest ih =>
    cases htokens
    exact ih (h.next hnext) hrest

/-! ### Where the tokens are not those of a query -/

/-- The tokens of a text end with the end of the query. -/
theorem endsQuery_of_tokensFrom {cursor : Cursor} {tokens : List Token}
    (h : tokensFrom cursor = .ok tokens) : EndsQuery tokens := by
  obtain ⟨front, last, behind, rfl, hlast, -⟩ := exists_run_of_tokensFrom h
  exact ⟨last, by simp, hlast⟩

/-- An error about a token of a text points into the text. -/
theorem Token.StandsIn.pointsInto {token : Token} (h : token.StandsIn text)
    (hrefuses : token.Refuses error) : error.PointsInto text := by
  cases hrefuses with
  | unfit _ expected =>
    obtain ⟨lexeme, offset, spaced⟩ := token
    cases h with
    | ends hlexeme hoffset =>
      dsimp only at hlexeme hoffset
      subst hlexeme hoffset
      exact .inl ⟨expected, rfl⟩
    | @begins c hlexeme hplace hblank _ =>
      have hblames : (refuse expected [⟨lexeme, offset, spaced⟩]).BlamesAt c offset := by
        cases lexeme with
        | endOfQuery => exact absurd rfl hlexeme
        | _ => exact ⟨rfl, trivial⟩
      exact hblames.pointsInto hplace hblank
  | noPattern source flags offset spaced =>
    cases h with
    | ends hlexeme _ => cases hlexeme
    | begins _ hplace hblank hslash =>
      exact ParseError.BlamesAt.pointsInto ⟨rfl, hslash source flags rfl⟩ hplace hblank

/-- An error that shows a token is about one that is not the end of the query. -/
theorem Token.Refuses.shows {token : Token} {found : String} {expected : Expected}
    (h : token.Refuses (.unexpectedToken found expected offset)) :
    token.lexeme ≠ .endOfQuery ∧ token.offset = offset ∧ token.lexeme.toText = found := by
  generalize herror : ParseError.unexpectedToken found expected offset = error at h
  cases h with
  | noPattern source flags offset spaced => cases herror
  | unfit _ =>
    obtain ⟨lexeme, offset, spaced⟩ := token
    cases lexeme with
    | endOfQuery => cases herror
    | _ =>
      cases herror
      exact ⟨by simp, rfl, rfl⟩

namespace Query

/-- **The error of a text that is no query points into the text**: at its end where the text has to
go on, and otherwise at the character that it is about. Where the text can be cut into tokens, an
error that shows a token shows one of them, and its place. -/
theorem pointsInto_of_ofText {text : String} {error : ParseError} (h : ofText text = .error error) :
    error.PointsInto text.toList ∧
      ∀ tokens, tokenize text = .ok tokens → ∀ found expected offset,
        error = .unexpectedToken found expected offset →
          ∃ token ∈ tokens, token.lexeme ≠ .endOfQuery ∧ token.offset = offset ∧
            token.lexeme.toText = found := by
  have hstart := Cursor.isIn_start text.toList
  unfold ofText at h
  cases htokens : tokenize text with
  | error lexical =>
    rw [htokens] at h
    obtain rfl : lexical = error := Except.error.inj h
    exact ⟨hstart.pointsInto_of_tokensFrom htokens, fun _ hok => by cases hok⟩
  | ok tokens =>
    rw [htokens] at h
    have hrefused : ofTokens tokens = .error error := h
    obtain ⟨token, hmem, hrefuses⟩ :=
      exists_refuses_of_ofTokens (endsQuery_of_tokensFrom htokens) hrefused
    refine ⟨(hstart.standsIn_of_tokensFrom htokens token hmem).pointsInto hrefuses, ?_⟩
    rintro _ ⟨⟩ found expected offset rfl
    exact ⟨token, hmem, hrefuses.shows⟩

end Query

/-- A kind and a parenthesis that nothing opened. -/
def strayTokens : List Token :=
  [⟨.kind "a", 0, false⟩, ⟨.closeParen, 3, true⟩, ⟨.endOfQuery, 4, false⟩]

/-- The tokens of the kind and the stray parenthesis, as the lexer cuts them. -/
theorem tokenize_stray : tokenize ".a )" = .ok strayTokens := by
  cbv

/-- The error about the stray parenthesis points at it, and shows it. -/
theorem pointsInto_of_ofText_stray :
    Query.ofText ".a )" = .error (.unexpectedToken ")" .commaOrEnd 3) ∧
      tokenize ".a )" = .ok strayTokens ∧
      (ParseError.unexpectedToken ")" .commaOrEnd 3).PointsInto ".a )".toList ∧
      ∃ token ∈ strayTokens,
        token.lexeme ≠ .endOfQuery ∧ token.offset = 3 ∧ token.lexeme.toText = ")" := by
  have herror : Query.ofText ".a )" = .error (.unexpectedToken ")" .commaOrEnd 3) := by cbv
  obtain ⟨hplace, hshown⟩ := Query.pointsInto_of_ofText herror
  exact ⟨herror, tokenize_stray, hplace, hshown _ tokenize_stray _ _ _ rfl⟩

end TreeQuery
