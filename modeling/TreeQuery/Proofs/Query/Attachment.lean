import TreeQuery.Proofs.Query.Grammar
import TreeQuery.Proofs.Query.ReadersComplete

/-!
# What stands before a chain

A part of a selector in front of the tokens of a chain gives the tokens of a chain again. If the
chain begins with a pseudo class or position that has no blank before it, and the part in front
takes it, the first selector of the chain is taken apart and becomes a part of the new one;
otherwise the part in front is a selector by itself. So a reading that attaches whatever it can
**never comes to a token with which it cannot go on**.

## Main definitions and results

* `SpellsChain`, `SpellsTail` — tokens that spell a chain, or may follow a selector.
* `SpellsTail.cons_position`, `SpellsTail.append_pseudo`, `SpellsTail.append_kind`,
  `SpellsChain.cons_scope`, `SpellsChain.cons_combinator`: one more part in front.
-/

namespace TreeQuery

/-- The tokens spell a chain. -/
def SpellsChain (tokens : List Token) : Prop :=
  ∃ chain : Chain, chain.meets grammar = true ∧ Spells tokens chain.pieces []

/-- The tokens are what may follow a selector in a chain. -/
def SpellsTail (tokens : List Token) : Prop := tokens = [] ∨ SpellsChain tokens

variable {tokens behind : List Token} {token : Token}

/-! ### The first selector -/

/-- A selector in front of what may follow one makes a chain. -/
theorem spellsChain_of_spans {selector : Selector} (hspans : selector.Spans tokens behind)
    (htail : SpellsTail behind) : SpellsChain tokens := by
  rcases htail with rfl | ⟨chain, hmeets, hspells⟩
  · exact ⟨.last selector, hspans.composed, hspans.spelled⟩
  · refine ⟨.link selector chain, ?_, ?_⟩
    · rw [Chain.meets, hspans.composed, hmeets]
      rfl
    · rw [Chain.pieces]
      exact hspans.spelled.append (hspans.ends.spells_separate hspells)

/-- A chain begins with a selector, and what follows does not belong to it. -/
theorem SpellsChain.exists_spans (h : SpellsChain tokens) :
    ∃ (selector : Selector) (behind : List Token),
      selector.Spans tokens behind ∧ SpellsTail behind := by
  obtain ⟨chain, hmeets, hspells⟩ := h
  cases chain with
  | last selector =>
    have hends : selector.Ends [] := ⟨by simp [EndsAttributes], by simp [EndsPseudo],
      by simp [EndsPosition]⟩
    exact ⟨selector, [], ⟨hmeets, hspells, hends⟩, .inl rfl⟩
  | link selector rest =>
    rw [Chain.meets, Bool.and_eq_true] at hmeets
    obtain ⟨part, pieces, hpieces, hstarts⟩ := Chain.exists_pieces_eq_cons hmeets.2
    obtain ⟨behind, hfirst, hrest⟩ := Spells.append_iff.mp hspells
    rw [hpieces] at hrest
    obtain ⟨hends, hrest⟩ := Selector.ends_of_spells_separate hstarts hrest
    exact ⟨selector, behind, ⟨hmeets.1, hfirst, hends⟩, .inr ⟨rest, hmeets.2, hpieces ▸ hrest⟩⟩

/-- If there are any tokens in what follows a selector, another selector comes first. -/
theorem SpellsTail.exists_spans (h : SpellsTail (token :: tokens)) :
    ∃ (selector : Selector) (behind : List Token),
      selector.Spans (token :: tokens) behind ∧ SpellsTail behind := by
  rcases h with h | h
  · cases h
  · exact h.exists_spans

/-- No attribute stands at the beginning of a chain. -/
theorem SpellsTail.endsAttributes (h : SpellsTail tokens) : EndsAttributes tokens := by
  cases tokens with
  | nil => simp [EndsAttributes]
  | cons token tokens =>
    obtain ⟨selector, behind, hspans, -⟩ := h.exists_spans
    obtain ⟨part, pieces, hpieces, hstarts⟩ := Selector.exists_pieces_eq_cons hspans.composed
    refine endsAttributes_of_spells (hpieces ▸ hspans.spelled) ?_
    rintro rfl
    cases hstarts

/-! ### What a part in front takes -/

/-- A selector that begins with a position is that position, and one that begins with a pseudo class
is the pseudo class with the position behind it. -/
theorem Selector.eq_of_pieces_eq_cons {selector : Selector} {part : Part} {pieces : List Piece}
    (h : selector.meets grammar = true) (hpieces : selector.pieces = ⟨part, .free⟩ :: pieces) :
    (∀ position, part = .position position → selector = { position := some position }) ∧
      ∀ pseudoClass, part = .pseudo pseudoClass → ∃ query position,
        selector = { pseudoTest := some ⟨pseudoClass, query⟩, position := position } := by
  rcases eq_of_isComposed (meets_iff.mp h).1 with ⟨path, next, -, rfl⟩ | ⟨combinator, next, rfl⟩ |
    ⟨⟨kind, attributes⟩, pseudoTest, place, -, rfl⟩ | ⟨⟨pseudoClass, query⟩, place, rfl⟩ |
    ⟨place, rfl⟩
  · rw [pieces_scope] at hpieces
    cases hpieces
    simp
  · rw [pieces_combinator] at hpieces
    cases hpieces
    simp
  · rw [pieces_kind] at hpieces
    cases hpieces
    simp
  · rw [pieces_pseudo] at hpieces
    cases hpieces
    simp
  · rw [pieces_position] at hpieces
    cases hpieces
    simp

/-- A position that is attached is taken off a chain, and what is left may follow. -/
theorem SpellsTail.exists_positionSpans (h : SpellsTail tokens) :
    ∃ position behind, PositionSpans position tokens behind ∧ SpellsTail behind := by
  rcases endsPosition_or tokens with ⟨position, offset, rest, rfl⟩ | hends
  · obtain ⟨selector, behind, hspans, htail⟩ := h.exists_spans
    obtain ⟨part, pieces, hpieces, -⟩ := Selector.exists_pieces_eq_cons hspans.composed
    have hspelled := hspans.spelled
    rw [hpieces] at hspelled
    rcases hspelled with _ | ⟨hfits, hrest⟩
    obtain rfl : part = .position position := (Option.some.inj hfits.part).symm
    obtain rfl := (Selector.eq_of_pieces_eq_cons hspans.composed hpieces).1 position rfl
    rw [Selector.pieces_position] at hpieces
    cases hpieces
    obtain rfl := Spells.nil_iff.mp hrest
    exact ⟨some position, rest, ⟨.single (Token.fits_attached.mpr ⟨rfl, rfl⟩), fun h => nomatch h⟩,
      htail⟩
  · exact ⟨none, tokens, ⟨.nil _, fun _ => hends⟩, h⟩

/-- A pseudo class that is attached is taken off a chain, and the position attached to it after
it. -/
theorem SpellsTail.exists_pseudoSpans (h : SpellsTail tokens) :
    ∃ test position middle behind, PseudoSpans test tokens middle ∧
      PositionSpans position middle behind ∧ SpellsTail behind := by
  rcases endsPseudo_or tokens with ⟨pseudoClass, offset, rest, rfl⟩ | hends
  · obtain ⟨selector, behind, hspans, htail⟩ := h.exists_spans
    obtain ⟨part, pieces, hpieces, -⟩ := Selector.exists_pieces_eq_cons hspans.composed
    have hfirst := hspans.spelled
    rw [hpieces] at hfirst
    rcases hfirst with _ | ⟨hfits, -⟩
    obtain rfl : part = .pseudo pseudoClass := (Option.some.inj hfits.part).symm
    obtain ⟨query, position, rfl⟩ :=
      (Selector.eq_of_pieces_eq_cons hspans.composed hpieces).2 pseudoClass rfl
    have hspelled := hspans.spelled
    rw [Selector.pieces_pseudo] at hspelled
    obtain ⟨middle, htest, hplace⟩ := Spells.append_iff.mp hspelled
    refine ⟨some ⟨pseudoClass, query⟩, position, middle, behind, ⟨?_, ?_, fun h => nomatch h⟩,
      ⟨hplace, fun hnone => hspans.ends.position (by rw [hnone]; rfl)⟩, htail⟩
    · rintro _ ⟨⟩
      exact Bool.and_eq_true_iff.mpr ((Selector.meets_iff.mp hspans.composed).2.2.2 _ rfl)
    · rcases htest with _ | ⟨-, hrest⟩
      exact .cons (Token.fits_attached.mpr ⟨rfl, rfl⟩) hrest
  · obtain ⟨position, behind, hposition, htail⟩ := h.exists_positionSpans
    exact ⟨none, position, tokens, behind, ⟨by simp, .nil _, fun _ => hends⟩, hposition, htail⟩

/-! ### One more part in front -/

/-- A position may stand in front of anything that may follow a selector. -/
theorem SpellsTail.cons_position {position : Position} (h : SpellsTail tokens)
    (htoken : token.lexeme.part? = some (.position position)) : SpellsChain (token :: tokens) :=
  spellsChain_of_spans (.position htoken) h

/-- A pseudo class may stand in front of anything that may follow a selector: it takes the position
that is attached to it. -/
theorem SpellsTail.append_pseudo {test : PseudoTest} {front : List Token} (h : SpellsTail tokens)
    (hquery : Query.isGrammatical test.query = true)
    (hfront : Spells front (test.pieces .free) []) :
    SpellsChain (front ++ tokens) := by
  obtain ⟨position, behind, hposition, htail⟩ := h.exists_positionSpans
  exact spellsChain_of_spans (.pseudo hquery (hfront.with_rest tokens) hposition) htail

/-- A kind with its attributes may stand in front of anything that may follow a selector: it takes
the pseudo class and the position that are attached to it. -/
theorem SpellsTail.append_kind {kind : String} {attributes : List Attribute} {front : List Token}
    (h : SpellsTail tokens) (hkind : isKindName kind = true)
    (hattributes : Attribute.allMeet grammar attributes = true)
    (hfront : Spells front (⟨.kind kind, .free⟩ :: Attribute.rowPieces attributes) []) :
    SpellsChain (front ++ tokens) := by
  obtain ⟨name, row, rfl, hname, hrow⟩ := Spells.cons_iff.mp hfront
  obtain ⟨test, position, middle, behind, hpseudo, hposition, htail⟩ := h.exists_pseudoSpans
  have hspans : Attribute.RowSpans attributes (row ++ tokens) tokens :=
    ⟨hattributes, hrow.with_rest tokens, h.endsAttributes⟩
  exact spellsChain_of_spans (.kind hkind hname.part hspans hpseudo hposition) htail

/-- A scope may stand in front of a chain. -/
theorem SpellsChain.cons_scope {path : KeyPath} (h : SpellsChain tokens)
    (hpath : path.isScope = true) (htoken : token.lexeme.part? = some (.scope path)) :
    SpellsChain (token :: tokens) := by
  obtain ⟨selector, behind, hspans, htail⟩ := h.exists_spans
  exact spellsChain_of_spans (.scope hpath htoken hspans) htail

/-- A combinator may stand in front of a chain. -/
theorem SpellsChain.cons_combinator {combinator : Combinator} (h : SpellsChain tokens)
    (htoken : token.lexeme.part? = some (.combinator combinator)) :
    SpellsChain (token :: tokens) := by
  obtain ⟨selector, behind, hspans, htail⟩ := h.exists_spans
  exact spellsChain_of_spans (.combinator htoken hspans) htail

end TreeQuery
