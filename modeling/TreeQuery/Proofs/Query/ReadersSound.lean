import TreeQuery.Fallible
import TreeQuery.Proofs.Query.Spans

/-!
# What is read spans its tokens

What a reader returns spans the tokens that it took. The induction is on the number of tokens and,
between readers that call each other on the same tokens, on the order in which they do.

## Main results

* `spans_of_returns_parseQuery`: a query that is read spans its tokens.
-/

namespace TreeQuery

/-- What is taken for a position, if anything, is a position that is attached. -/
theorem positionSpans_takePosition (tokens : List Token) :
    PositionSpans (takePosition tokens).value tokens (takePosition tokens).rest :=
  have h := takePosition_iff.mp ⟨rfl, rfl⟩
  ⟨h.1, h.2⟩

/-- The elements that tokens of a text spell are scalars that can be written. -/
theorem isScalar_of_spells_elementPieces {tokens rest : List Token} {items : List Value}
    (hw : AreWritten tokens) (h : Spells tokens (elementPieces items) rest) :
    items.all Value.isScalar = true := by
  induction items generalizing tokens with
  | nil => rfl
  | cons value items ih =>
    obtain ⟨token, behind, rfl, hfits, hrest⟩ := Spells.cons_iff.mp h
    rw [List.all_cons, ih hw.tail hrest, Bool.and_true]
    exact hw.head hfits.part

/-- What spans tokens that begin with a kind is a test of nodes with a kind. -/
theorem kindTest_isSome_of_spans {selector : Selector} {token : Token} {kind : String}
    {behind rest : List Token} (htoken : token.lexeme.part? = some (.kind kind))
    (h : selector.Spans (token :: behind) rest) : selector.kindTest.isSome = true := by
  have hspelled := h.spelled
  rcases Selector.eq_of_isComposed (Selector.meets_iff.mp h.composed).1 with
    ⟨path, next, -, rfl⟩ | ⟨combinator, next, rfl⟩ | ⟨test, pseudoTest, position, -, rfl⟩ |
    ⟨⟨pseudoClass, query⟩, position, rfl⟩ | ⟨position, rfl⟩
  · rw [Selector.pieces_scope] at hspelled
    rcases hspelled with _ | ⟨hfits, -⟩
    cases htoken.symm.trans hfits.part
  · rw [Selector.pieces_combinator] at hspelled
    rcases hspelled with _ | ⟨hfits, -⟩
    cases htoken.symm.trans hfits.part
  · rfl
  · rw [Selector.pieces_pseudo] at hspelled
    rcases hspelled with _ | ⟨hfits, -⟩
    cases htoken.symm.trans hfits.part
  · rw [Selector.pieces_position] at hspelled
    rcases hspelled with _ | ⟨hfits, -⟩
    cases htoken.symm.trans hfits.part

mutual

/-- **A query spans the tokens from which it is read**, and so does every part of it. The induction
is the recursion of the readers: each token taken leaves fewer of them. -/
theorem spans_of_returns_parseQuery {tokens rest : List Token} (hw : AreWritten tokens)
    {n : Nat} (hn : tokens.length = n)
    {query : Query} (h : Returns (parseQuery tokens) query rest) : query.Spans tokens rest := by
  rw [parseQuery] at h
  obtain ⟨first, behind, hlt, hfirst, h⟩ := returns_bind.mp h
  have hchain := spans_of_returns_parseChain hw hn ⟨hlt, hfirst⟩
  dsimp only at h
  split at h
  · rename_i offset spaced behind'
    obtain ⟨others, behind'', hlt', hothers, h⟩ := returns_bind.mp h
    obtain ⟨rfl, rfl⟩ := returns_ok.mp h
    have : behind'.length < tokens.length := Nat.lt_of_succ_lt hlt
    have hquery := spans_of_returns_parseQuery (hw.rest hchain.spelled).tail rfl ⟨hlt', hothers⟩
    exact .cons hchain rfl hquery
  · rename_i hcomma
    obtain ⟨rfl, rfl⟩ := returns_ok.mp h
    refine .single hchain ?_
    rintro ⟨lexeme, offset, spaced⟩ htoken rfl
    obtain ⟨behind', rfl⟩ := List.head?_eq_some_iff.mp htoken
    exact hcomma _ _ _ rfl
termination_by (n, 3)

/-- A chain spans the tokens from which it is read. -/
theorem spans_of_returns_parseChain {tokens rest : List Token} (hw : AreWritten tokens)
    {n : Nat} (hn : tokens.length = n)
    {chain : Chain} (h : Returns (parseChain tokens) chain rest) : chain.Spans tokens rest := by
  rw [parseChain] at h
  obtain ⟨first, behind, hlt, hfirst, h⟩ := returns_bind.mp h
  have hselector := spans_of_returns_parseSelector hw hn ⟨hlt, hfirst⟩
  dsimp only at h
  split at h
  · obtain ⟨others, behind', hlt', hothers, h⟩ := returns_bind.mp h
    obtain ⟨rfl, rfl⟩ := returns_ok.mp h
    have := hlt
    exact .link hselector
      (spans_of_returns_parseChain (hw.rest hselector.spelled) rfl ⟨hlt', hothers⟩)
  · rename_i hstarts
    obtain ⟨rfl, rfl⟩ := returns_ok.mp h
    exact ⟨hselector.composed, hselector.spelled, Bool.eq_false_iff.mpr hstarts, hselector.ends⟩
termination_by (n, 2)

/-- A selector spans the tokens from which it is read. -/
theorem spans_of_returns_parseSelector {tokens rest : List Token} (hw : AreWritten tokens)
    {n : Nat} (hn : tokens.length = n)
    {selector : Selector} (h : Returns (parseSelector tokens) selector rest) :
    selector.Spans tokens rest := by
  rw [parseSelector.eq_def] at h
  split at h
  · obtain ⟨next, behind, hlt, hnext, h⟩ := returns_bind.mp h
    obtain ⟨rfl, rfl⟩ := returns_ok.mp h
    exact .scope (hw.head rfl) rfl (spans_of_returns_parseSelector hw.tail rfl ⟨hlt, hnext⟩)
  · obtain ⟨next, behind, hlt, hnext, h⟩ := returns_bind.mp h
    obtain ⟨rfl, rfl⟩ := returns_ok.mp h
    exact .combinator rfl (spans_of_returns_parseSelector hw.tail rfl ⟨hlt, hnext⟩)
  · exact spans_of_returns_parseCompound hw hn h
termination_by (n, 1)

/-- A test of nodes spans the tokens from which it is read. -/
theorem spans_of_returns_parseCompound {tokens rest : List Token} (hw : AreWritten tokens)
    {n : Nat} (hn : tokens.length = n)
    {selector : Selector} (h : Returns (parseCompound tokens) selector rest) :
    selector.Spans tokens rest := by
  rw [parseCompound.eq_def] at h
  split at h
  · obtain ⟨attributes, behind, hlt, hattributes, h⟩ := returns_bind.mp h
    obtain ⟨pseudoTest, behind', hlt', hpseudo, h⟩ := returns_bind.mp h
    obtain ⟨rfl, rfl⟩ := returns_ok.mp h
    have hrow := spans_of_returns_parseAttributes hw.tail rfl ⟨hlt, hattributes⟩
    have := hlt
    exact .kind (hw.head rfl) rfl hrow
      (spans_of_returns_parseAttachedPseudo (hw.tail.rest hrow.spelled) rfl ⟨hlt', hpseudo⟩)
      (positionSpans_takePosition _)
  · obtain ⟨query, behind, hlt, hquery, h⟩ := returns_bind.mp h
    obtain ⟨rfl, rfl⟩ := returns_ok.mp h
    obtain ⟨hgrammatical, hspelled⟩ := spells_of_returns_parsePseudoQuery hw.tail rfl ⟨hlt, hquery⟩
    exact .pseudo hgrammatical (.cons (Token.fits_free.mpr rfl) hspelled)
      (positionSpans_takePosition _)
  · obtain ⟨rfl, rfl⟩ := returns_ok.mp h
    exact .position rfl
  · exact absurd h not_returns_error
termination_by (n, 0)

/-- The query of a pseudo class is spelled in parentheses where it is read. -/
theorem spells_of_returns_parsePseudoQuery {tokens rest : List Token} (hw : AreWritten tokens)
    {n : Nat} (hn : tokens.length = n)
    {query : Query} (h : Returns (parsePseudoQuery tokens) query rest) :
    query.isGrammatical = true ∧
      Spells tokens (⟨.openParen, .free⟩ :: Chain.listPieces query ++ [⟨.closeParen, .free⟩])
        rest := by
  rw [parsePseudoQuery] at h
  obtain ⟨_, behind, hlt, hopening, h⟩ := returns_bind.mp h
  obtain ⟨query', behind', hlt', hquery, h⟩ := returns_bind.mp h
  obtain ⟨_, behind'', hlt'', hclosing, h⟩ := returns_bind.mp h
  obtain ⟨rfl, rfl⟩ := returns_ok.mp h
  obtain ⟨opening, rfl, hopen⟩ := (returns_expect _).mp ⟨hlt, hopening⟩
  obtain ⟨closing, rfl, hclose⟩ := (returns_expect _).mp ⟨hlt'', hclosing⟩
  have hspans := spans_of_returns_parseQuery hw.tail rfl ⟨hlt', hquery⟩
  refine ⟨hspans.composed, .cons (Token.fits_free.mpr ?_) (hspans.spelled.append (.single
    (Token.fits_free.mpr ?_)))⟩
  · rw [hopen]
    rfl
  · rw [hclose]
    rfl
termination_by (n, 0)

/-- An attached pseudo class that may be missing spans the tokens from which it is read. -/
theorem spans_of_returns_parseAttachedPseudo {tokens rest : List Token} (hw : AreWritten tokens)
    {n : Nat} (hn : tokens.length = n)
    {test : Option PseudoTest} (h : Returns (parseAttachedPseudo tokens) test rest) :
    PseudoSpans test tokens rest := by
  rw [parseAttachedPseudo.eq_def] at h
  split at h
  · obtain ⟨query, behind, hlt, hquery, h⟩ := returns_bind.mp h
    obtain ⟨rfl, rfl⟩ := returns_ok.mp h
    obtain ⟨hgrammatical, hspelled⟩ := spells_of_returns_parsePseudoQuery hw.tail rfl ⟨hlt, hquery⟩
    refine ⟨?_, .cons (Token.fits_attached.mpr ⟨rfl, rfl⟩) hspelled, fun h => nomatch h⟩
    rintro _ ⟨⟩
    exact hgrammatical
  · rename_i hne
    obtain ⟨rfl, rfl⟩ := returns_ok.mp h
    refine ⟨by simp, .nil _, fun _ => ?_⟩
    rcases endsPseudo_or tokens with ⟨pseudoClass, offset, behind, rfl⟩ | hends
    · exact absurd rfl (hne _ _ _)
    · exact hends
termination_by (n, 0)

/-- Attributes in a row span the tokens from which they are read. -/
theorem spans_of_returns_parseAttributes {tokens rest : List Token} (hw : AreWritten tokens)
    {n : Nat} (hn : tokens.length = n)
    {attributes : List Attribute} (h : Returns (parseAttributes tokens) attributes rest) :
    Attribute.RowSpans attributes tokens rest := by
  rw [parseAttributes.eq_def] at h
  split at h
  · obtain ⟨first, behind, hlt, hfirst, h⟩ := returns_bind.mp h
    obtain ⟨_, behind', hlt', hclosing, h⟩ := returns_bind.mp h
    obtain ⟨others, behind'', hlt'', hothers, h⟩ := returns_bind.mp h
    obtain ⟨rfl, rfl⟩ := returns_ok.mp h
    obtain ⟨closing, rfl, hclose⟩ := (returns_expect _).mp ⟨hlt', hclosing⟩
    obtain ⟨hmeets, hvalue, hspelled⟩ := spells_of_returns_parseAttribute hw.tail rfl ⟨hlt, hfirst⟩
    have : behind'.length < n := by
      simp only [List.length_cons] at hlt hn
      omega
    have hrow := spans_of_returns_parseAttributes (hw.tail.rest hspelled).tail rfl ⟨hlt'', hothers⟩
    obtain ⟨key, operator, value⟩ := first
    refine ⟨?_, .cons (Token.fits_free.mpr rfl) (hspelled.append (.cons (Token.fits_free.mpr ?_)
      hrow.spelled)), hrow.ends⟩
    · rw [Attribute.allMeet, hmeets, hvalue, hrow.composed]
      rfl
    · rw [hclose]
      rfl
  · rename_i hne
    obtain ⟨rfl, rfl⟩ := returns_ok.mp h
    refine ⟨rfl, .nil _, ?_⟩
    rintro ⟨lexeme, offset, spaced⟩ htoken rfl
    obtain ⟨behind, rfl⟩ := List.head?_eq_some_iff.mp htoken
    exact hne _ _ _ rfl
termination_by (n, 0)

/-- An attribute is spelled by the tokens between its brackets, and composed as the grammar has
it. -/
theorem spells_of_returns_parseAttribute {tokens rest : List Token} (hw : AreWritten tokens)
    {n : Nat} (hn : tokens.length = n)
    {a : Attribute} (h : Returns (parseAttribute tokens) a rest) :
    grammar.onAttribute a = true ∧ a.value.meets grammar = true ∧
      Spells tokens (⟨.key a.key, .free⟩ :: ⟨.operator a.operator, .free⟩ :: a.value.pieces)
        rest := by
  rw [parseAttribute.eq_def] at h
  split at h
  · obtain ⟨value, behind, hlt, hvalue, h⟩ := returns_bind.mp h
    obtain ⟨rfl, rfl⟩ := returns_ok.mp h
    obtain ⟨hcomposed, hmeets, hspelled⟩ :=
      spells_of_returns_parseValue hw.tail.tail rfl ⟨hlt, hvalue⟩
    refine ⟨?_, hmeets, .cons (Token.fits_free.mpr rfl) (.cons (Token.fits_free.mpr rfl) hspelled)⟩
    exact Bool.and_eq_true_iff.mpr ⟨hw.head rfl, hcomposed⟩
  · exact absurd h not_returns_error
  · exact absurd h not_returns_error
termination_by (n, 0)

/-- A value is spelled by the tokens from which it is read, and composed as the grammar has it. -/
theorem spells_of_returns_parseValue {tokens rest : List Token} (hw : AreWritten tokens)
    {n : Nat} (hn : tokens.length = n)
    {value : Value} (h : Returns (parseValue tokens) value rest) :
    value.isComposed = true ∧ value.meets grammar = true ∧ Spells tokens value.pieces rest := by
  rw [parseValue.eq_def] at h
  split at h
  · obtain ⟨items, behind, hlt, hitems, h⟩ := returns_bind.mp h
    obtain ⟨rfl, rfl⟩ := returns_ok.mp h
    have hspelled := spells_of_returns_parseElements ⟨hlt, hitems⟩
    exact ⟨isScalar_of_spells_elementPieces hw.tail hspelled, rfl,
      .cons (Token.fits_free.mpr rfl) hspelled⟩
  · obtain ⟨selector, behind, hlt, hselector, h⟩ := returns_bind.mp h
    obtain ⟨rfl, rfl⟩ := returns_ok.mp h
    have hspans := spans_of_returns_parseCompound hw hn ⟨hlt, hselector⟩
    exact ⟨kindTest_isSome_of_spans rfl hspans, hspans.composed, hspans.spelled⟩
  · obtain ⟨token, rfl, hpart⟩ := returns_parseScalar.mp h
    have hscalar : value.isScalar = true := hw.head hpart
    refine ⟨Value.isComposed_of_isScalar hscalar, Value.meets_of_isScalar hscalar, ?_⟩
    rw [Value.pieces_of_isScalar hscalar]
    exact .single (Token.fits_free.mpr hpart)
termination_by (n, 1)

end

end TreeQuery
