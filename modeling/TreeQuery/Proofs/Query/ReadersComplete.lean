import TreeQuery.Proofs.Query.ReadersSound

/-!
# What spans tokens is read

What spans tokens is returned by its reader. The induction follows the query: each reader is shown
to succeed from the success of the readers that it calls.

## Main results

* `returns_parseQuery_iff`: **a query is read from tokens exactly when it spans them.**
-/

namespace TreeQuery

/-! ### Where things end -/

/-- Behind a selector, only an attribute, a pseudo class and a position can belong to it. -/
theorem Selector.ends_cons {selector : Selector} {token : Token} {rest : List Token}
    (hbracket : token.lexeme ≠ .openBracket) (hpseudo : ∀ p, token.lexeme ≠ .pseudo p)
    (hposition : ∀ p, token.lexeme ≠ .position p) : selector.Ends (token :: rest) := by
  refine ⟨?_, ?_, ?_⟩
  · rintro - _ ⟨⟩
    exact hbracket
  · rintro - _ ⟨⟩ p hlexeme
    exact absurd hlexeme (hpseudo p)
  · rintro - _ ⟨⟩ p hlexeme
    exact absurd hlexeme (hposition p)

/-- A query ends at a closing parenthesis and at the end of the text. -/
theorem Query.ends_cons {query : Query} {token : Token} {rest : List Token}
    (h : token.lexeme = .closeParen ∨ token.lexeme = .endOfQuery) : query.Ends (token :: rest) := by
  obtain ⟨lexeme, offset, spaced⟩ := token
  refine ⟨?_, fun chain _ => ⟨?_, Selector.ends_cons ?_ ?_ ?_⟩⟩ <;>
    rcases h with rfl | rfl <;> simp [startsSelector]

/-- A chain ends at a comma. -/
theorem Chain.ends_comma {chain : Chain} {token : Token} {rest : List Token}
    (h : token.lexeme = .comma) : chain.Ends (token :: rest) := by
  obtain ⟨lexeme, offset, spaced⟩ := token
  obtain rfl : lexeme = .comma := h
  exact ⟨rfl, Selector.ends_cons (by simp) (by simp) (by simp)⟩

/-- Where an attached piece follows, no attribute does. -/
theorem endsAttributes_of_spells {part : Part} {spacing : Spacing} {pieces : List Piece}
    {tokens rest : List Token} (h : Spells tokens (⟨part, spacing⟩ :: pieces) rest)
    (hpart : part ≠ .openBracket) : EndsAttributes tokens := by
  obtain ⟨token, behind, rfl, hfits, -⟩ := Spells.cons_iff.mp h
  rintro _ ⟨⟩ hlexeme
  have := hfits.part
  rw [hlexeme] at this
  exact hpart (Option.some.inj this).symm

/-- Where a position follows, no pseudo class does. -/
theorem endsPseudo_of_spells_position {position : Position} {spacing : Spacing}
    {pieces : List Piece} {tokens rest : List Token}
    (h : Spells tokens (⟨.position position, spacing⟩ :: pieces) rest) : EndsPseudo tokens := by
  obtain ⟨token, behind, rfl, hfits, -⟩ := Spells.cons_iff.mp h
  rintro _ ⟨⟩ pseudoClass hlexeme
  rw [Lexeme.part?_eq_position.mp hfits.part] at hlexeme
  cases hlexeme

/-- What a test of nodes that begins with a kind spans is made up of what its parts span. -/
theorem Selector.Spans.exists_of_kind {kind : String} {attributes : List Attribute}
    {pseudoTest : Option PseudoTest} {position : Option Position} {tokens rest : List Token}
    (h : Selector.Spans
      { kindTest := some ⟨kind, attributes⟩, pseudoTest := pseudoTest, position := position }
      tokens rest) :
    ∃ token behind behind' behind'', tokens = token :: behind ∧ token.lexeme = .kind kind ∧
      Attribute.RowSpans attributes behind behind' ∧ PseudoSpans pseudoTest behind' behind'' ∧
      PositionSpans position behind'' rest := by
  obtain ⟨-, -, hattributes, hpseudo⟩ := meets_iff.mp h.composed
  have hspelled := h.spelled
  rw [pieces_kind] at hspelled
  obtain ⟨token, behind, rfl, hfits, hspelled⟩ := Spells.cons_iff.mp hspelled
  obtain ⟨behind', hrow, hspelled⟩ := Spells.append_iff.mp hspelled
  obtain ⟨behind'', htest, hplace⟩ := Spells.append_iff.mp hspelled
  refine ⟨token, behind, behind', behind'', rfl, Lexeme.part?_eq_kind.mp hfits.part,
    ⟨hattributes _ rfl, hrow, ?_⟩, ⟨?_, htest, ?_⟩, ⟨hplace, ?_⟩⟩
  · rcases pseudoTest with _ | ⟨pseudoClass, query⟩
    · obtain rfl := Spells.nil_iff.mp htest
      cases position with
      | none =>
        obtain rfl := Spells.nil_iff.mp hplace
        exact h.ends.attributes rfl
      | some position => exact endsAttributes_of_spells hplace (by simp)
    · exact endsAttributes_of_spells htest (by simp)
  · intro test htest
    rw [Query.isGrammatical]
    exact Bool.and_eq_true_iff.mpr (hpseudo test htest)
  · rintro rfl
    cases position with
    | none =>
      obtain rfl := Spells.nil_iff.mp hplace
      exact h.ends.pseudo rfl
    | some position => exact endsPseudo_of_spells_position hplace
  · rintro rfl
    exact h.ends.position rfl

/-- The query of a pseudo class is read from the parentheses around it, if it is read from what it
spans. -/
theorem returns_parsePseudoQuery {query : Query} {tokens rest : List Token}
    (ih : ∀ tokens rest, query.Spans tokens rest → Returns (parseQuery tokens) query rest)
    (hquery : query.isGrammatical = true)
    (h : Spells tokens (⟨.openParen, .free⟩ :: Chain.listPieces query ++ [⟨.closeParen, .free⟩])
      rest) :
    Returns (parsePseudoQuery tokens) query rest := by
  obtain ⟨opening, behind, rfl, hopening, h⟩ := Spells.cons_iff.mp h
  obtain ⟨behind', hspelled, h⟩ := Spells.append_iff.mp h
  obtain ⟨closing, behind'', rfl, hclosing, h⟩ := Spells.cons_iff.mp h
  obtain rfl := Spells.nil_iff.mp h
  have hclose := Lexeme.part?_eq_closeParen.mp hclosing.part
  obtain ⟨hlt, hopen⟩ := (returns_expect .openParen).mpr
    ⟨opening, rfl, Lexeme.part?_eq_openParen.mp hopening.part⟩
  obtain ⟨hlt', hread⟩ := ih _ _ ⟨hquery, hspelled, Query.ends_cons (.inl hclose)⟩
  obtain ⟨hlt'', hend⟩ := (returns_expect .closeParen).mpr ⟨closing, rfl, hclose⟩
  rw [parsePseudoQuery]
  exact returns_bind.mpr ⟨_, _, hlt, hopen, returns_bind.mpr ⟨_, _, hlt', hread,
    returns_bind.mpr ⟨_, _, hlt'', hend, returns_ok.mpr ⟨rfl, rfl⟩⟩⟩⟩

/-- An attached pseudo class that may be missing is read from what it spans, if its query is. -/
theorem returns_parseAttachedPseudo {test : Option PseudoTest} {tokens rest : List Token}
    (ih : ∀ found ∈ test, ∀ tokens rest, Query.Spans found.query tokens rest →
      Returns (parseQuery tokens) found.query rest)
    (h : PseudoSpans test tokens rest) : Returns (parseAttachedPseudo tokens) test rest := by
  rw [parseAttachedPseudo.eq_def]
  rcases test with _ | ⟨pseudoClass, query⟩
  · obtain rfl := Spells.nil_iff.mp h.spelled
    split
    · exact absurd (h.ends rfl _ rfl _ rfl) (by simp)
    · exact returns_ok.mpr ⟨rfl, rfl⟩
  · obtain ⟨⟨lexeme, offset, spaced⟩, behind, rfl, hfits, hspelled⟩ := Spells.cons_iff.mp h.spelled
    obtain ⟨hpart, hspaced⟩ := Token.fits_attached.mp hfits
    obtain rfl := Lexeme.part?_eq_pseudo.mp hpart
    obtain rfl : spaced = false := hspaced
    obtain ⟨hlt, hquery⟩ := returns_parsePseudoQuery (ih _ rfl) (h.composed _ rfl) hspelled
    exact returns_bind.mpr ⟨_, _, hlt, hquery, returns_ok.mpr ⟨rfl, rfl⟩⟩

/-- An attached position that may be missing is taken from what it spans. -/
theorem returns_takePosition {position : Option Position} {tokens rest : List Token}
    (h : PositionSpans position tokens rest) :
    (takePosition tokens).value = position ∧ (takePosition tokens).rest = rest :=
  takePosition_iff.mpr ⟨h.spelled, h.ends⟩

/-- A test of nodes is read from what it spans. -/
theorem returns_parseCompound {selector : Selector} {tokens rest : List Token}
    (hmove : selector.next = none)
    (hattributes : ∀ test ∈ selector.kindTest, ∀ tokens rest,
      Attribute.RowSpans test.attributes tokens rest →
        Returns (parseAttributes tokens) test.attributes rest)
    (hquery : ∀ test ∈ selector.pseudoTest, ∀ tokens rest, Query.Spans test.query tokens rest →
      Returns (parseQuery tokens) test.query rest)
    (h : selector.Spans tokens rest) : Returns (parseCompound tokens) selector rest := by
  rcases Selector.eq_of_isComposed (Selector.meets_iff.mp h.composed).1 with
    ⟨path, next, -, rfl⟩ | ⟨combinator, next, rfl⟩ |
    ⟨⟨kind, attributes⟩, pseudoTest, position, -, rfl⟩ | ⟨⟨pseudoClass, query⟩, position, rfl⟩ |
    ⟨position, rfl⟩
  · cases hmove
  · cases hmove
  · obtain ⟨⟨lexeme, offset, spaced⟩, behind, behind', behind'', rfl, hlexeme, hrow, htest,
      hplace⟩ :=
      h.exists_of_kind
    obtain rfl : lexeme = .kind kind := hlexeme
    obtain ⟨hlt, hrow⟩ := hattributes _ rfl _ _ hrow
    obtain ⟨hlt', htest⟩ := returns_parseAttachedPseudo hquery htest
    obtain ⟨rfl, rfl⟩ := returns_takePosition hplace
    rw [parseCompound.eq_def]
    exact returns_bind.mpr ⟨_, _, hlt, hrow, returns_bind.mpr ⟨_, _, hlt', htest,
      returns_ok.mpr ⟨rfl, rfl⟩⟩⟩
  · have hspelled := h.spelled
    rw [Selector.pieces_pseudo] at hspelled
    obtain ⟨behind', htest, hplace⟩ := Spells.append_iff.mp hspelled
    obtain ⟨⟨lexeme, offset, spaced⟩, behind, rfl, hfits, hparens⟩ := Spells.cons_iff.mp htest
    obtain rfl := Lexeme.part?_eq_pseudo.mp hfits.part
    have hgrammatical : Query.isGrammatical query = true :=
      Bool.and_eq_true_iff.mpr ((Selector.meets_iff.mp h.composed).2.2.2 _ rfl)
    obtain ⟨hlt, hparens⟩ := returns_parsePseudoQuery (hquery _ rfl) hgrammatical hparens
    have hposition : PositionSpans position behind' rest :=
      ⟨hplace, fun hnone => h.ends.position (by rw [hnone]; rfl)⟩
    obtain ⟨rfl, rfl⟩ := returns_takePosition hposition
    rw [parseCompound.eq_def]
    exact returns_bind.mpr ⟨_, _, hlt, hparens, returns_ok.mpr ⟨rfl, rfl⟩⟩
  · have hspelled := h.spelled
    rw [Selector.pieces_position] at hspelled
    obtain ⟨⟨lexeme, offset, spaced⟩, behind, rfl, hfits, hrest⟩ := Spells.cons_iff.mp hspelled
    obtain rfl := Spells.nil_iff.mp hrest
    obtain rfl := Lexeme.part?_eq_position.mp hfits.part
    rw [parseCompound.eq_def]
    exact returns_ok.mpr ⟨rfl, rfl⟩

/-- Tokens that spell a test of nodes are not read as a move. -/
theorem parseSelector_eq_parseCompound {selector : Selector} {tokens rest : List Token}
    (hmove : selector.next = none) (h : selector.Spans tokens rest) :
    parseSelector tokens = parseCompound tokens := by
  obtain ⟨part, pieces, hpieces, -⟩ := Selector.exists_pieces_eq_cons h.composed
  have hspelled := h.spelled
  rcases Selector.eq_of_isComposed (Selector.meets_iff.mp h.composed).1 with
    ⟨path, next, -, rfl⟩ | ⟨combinator, next, rfl⟩ |
    ⟨⟨kind, attributes⟩, pseudoTest, position, -, rfl⟩ | ⟨⟨pseudoClass, query⟩, position, rfl⟩ |
    ⟨position, rfl⟩
  · cases hmove
  · cases hmove
  · rw [Selector.pieces_kind] at hspelled
    obtain ⟨⟨lexeme, offset, spaced⟩, behind, rfl, hfits, -⟩ := Spells.cons_iff.mp hspelled
    obtain rfl := Lexeme.part?_eq_kind.mp hfits.part
    rw [parseSelector.eq_def]
  · rw [Selector.pieces_pseudo] at hspelled
    obtain ⟨⟨lexeme, offset, spaced⟩, behind, rfl, hfits, -⟩ := Spells.cons_iff.mp hspelled
    obtain rfl := Lexeme.part?_eq_pseudo.mp hfits.part
    rw [parseSelector.eq_def]
  · rw [Selector.pieces_position] at hspelled
    obtain ⟨⟨lexeme, offset, spaced⟩, behind, rfl, hfits, -⟩ := Spells.cons_iff.mp hspelled
    obtain rfl := Lexeme.part?_eq_position.mp hfits.part
    rw [parseSelector.eq_def]

/-- A selector is read from what it spans, if what it holds is. -/
theorem returns_parseSelector {selector : Selector}
    (hnext : ∀ next ∈ selector.next, ∀ tokens rest, next.Spans tokens rest →
      Returns (parseSelector tokens) next rest)
    (hattributes : ∀ test ∈ selector.kindTest, ∀ tokens rest,
      Attribute.RowSpans test.attributes tokens rest →
        Returns (parseAttributes tokens) test.attributes rest)
    (hquery : ∀ test ∈ selector.pseudoTest, ∀ tokens rest, Query.Spans test.query tokens rest →
      Returns (parseQuery tokens) test.query rest)
    {tokens rest : List Token} (h : selector.Spans tokens rest) :
    Returns (parseSelector tokens) selector rest := by
  cases hmove : selector.next with
  | none =>
    rw [parseSelector_eq_parseCompound hmove h]
    exact returns_parseCompound hmove hattributes hquery h
  | some next =>
    have hspelled := h.spelled
    obtain ⟨-, hmeets, -⟩ := Selector.meets_iff.mp h.composed
    rcases Selector.eq_of_isComposed (Selector.meets_iff.mp h.composed).1 with
      ⟨path, next, -, rfl⟩ | ⟨combinator, next, rfl⟩ | ⟨test, pseudoTest, position, -, rfl⟩ |
      ⟨test, position, rfl⟩ | ⟨position, rfl⟩
    · rw [Selector.pieces_scope] at hspelled
      obtain ⟨⟨lexeme, offset, spaced⟩, behind, rfl, hfits, hbehind⟩ := Spells.cons_iff.mp hspelled
      obtain ⟨text, rfl, rfl⟩ := Lexeme.part?_eq_scope.mp hfits.part
      obtain ⟨hlt, hread⟩ := hnext _ rfl _ _
        ⟨hmeets _ rfl, hbehind, ⟨h.ends.attributes, h.ends.pseudo, h.ends.position⟩⟩
      rw [parseSelector.eq_def]
      exact returns_bind.mpr ⟨_, _, hlt, hread, returns_ok.mpr ⟨rfl, rfl⟩⟩
    · rw [Selector.pieces_combinator] at hspelled
      obtain ⟨⟨lexeme, offset, spaced⟩, behind, rfl, hfits, hbehind⟩ := Spells.cons_iff.mp hspelled
      obtain rfl := Lexeme.part?_eq_combinator.mp hfits.part
      obtain ⟨hlt, hread⟩ := hnext _ rfl _ _
        ⟨hmeets _ rfl, hbehind, ⟨h.ends.attributes, h.ends.pseudo, h.ends.position⟩⟩
      rw [parseSelector.eq_def]
      exact returns_bind.mpr ⟨_, _, hlt, hread, returns_ok.mpr ⟨rfl, rfl⟩⟩
    · cases hmove
    · cases hmove
    · cases hmove

/-- What values are read from: the closing bracket behind them is part of what they ask for. -/
def Value.IsRead (value : Value) : Prop :=
  ∀ tokens closing rest, value.isComposed = true → value.meets grammar = true →
    Spells tokens value.pieces (closing :: rest) → closing.lexeme = .closeBracket →
    Returns (parseValue tokens) value (closing :: rest)

/-- A scalar is read. -/
theorem Value.isRead_of_isScalar {value : Value} (h : value.isScalar = true) : value.IsRead := by
  intro tokens closing rest _ _ hspelled _
  rw [Value.pieces_of_isScalar h] at hspelled
  obtain ⟨⟨lexeme, offset, spaced⟩, behind, rfl, hfits, hrest⟩ := Spells.cons_iff.mp hspelled
  obtain rfl := Spells.nil_iff.mp hrest
  have hread : Returns (parseScalar (⟨lexeme, offset, spaced⟩ :: closing :: rest)) value
      (closing :: rest) :=
    returns_parseScalar.mpr ⟨_, rfl, hfits.part⟩
  rw [parseValue.eq_def]
  cases lexeme with
  | openParen => cases hfits.part
  | kind name => cases hfits.part
  | _ => exact hread

/-- An array is read. -/
theorem Value.isRead_array (items : List Value) : (Value.array items).IsRead := by
  intro tokens closing rest _ _ hspelled _
  obtain ⟨⟨lexeme, offset, spaced⟩, behind, rfl, hfits, hitems⟩ := Spells.cons_iff.mp hspelled
  obtain rfl := Lexeme.part?_eq_openParen.mp hfits.part
  obtain ⟨hlt, hread⟩ := returns_parseElements_of_spells hitems
  rw [parseValue.eq_def]
  exact returns_bind.mpr ⟨_, _, hlt, hread, returns_ok.mpr ⟨rfl, rfl⟩⟩

/-- A selector is read as a value, if it is read from what it spans: with a kind in front it is no
move. -/
theorem Value.isRead_selector {selector : Selector}
    (ih : ∀ tokens rest, selector.Spans tokens rest →
      Returns (parseSelector tokens) selector rest) : (Value.selector selector).IsRead := by
  intro tokens closing rest hcomposed hmeets hspelled hclosing
  have hspans : selector.Spans tokens (closing :: rest) :=
    ⟨hmeets, hspelled, Selector.ends_cons (by simp [hclosing]) (by simp [hclosing])
      (by simp [hclosing])⟩
  have hread := ih _ _ hspans
  obtain ⟨kind, attributes, pseudoTest, position, -, rfl⟩ :=
    Selector.eq_of_kindTest (Selector.meets_iff.mp hspans.composed).1 hcomposed
  obtain ⟨⟨lexeme, offset, spaced⟩, behind, _, _, rfl, hlexeme, -⟩ := hspans.exists_of_kind
  obtain rfl : lexeme = .kind kind := hlexeme
  rw [parseSelector_eq_parseCompound rfl hspans] at hread
  obtain ⟨hlt, hread⟩ := hread
  rw [parseValue.eq_def]
  exact returns_bind.mpr ⟨_, _, hlt, hread, returns_ok.mpr ⟨rfl, rfl⟩⟩

/-- An attribute is read from the key, operator and value in its brackets, if the value is read. -/
theorem returns_parseAttribute {key : KeyPath} {operator : Operator} {value : Value}
    (hvalue : value.IsRead) {tokens rest : List Token} {closing : Token}
    (hcomposed : value.isComposed = true) (hmeets : value.meets grammar = true)
    (h : Spells tokens (⟨.key key, .free⟩ :: ⟨.operator operator, .free⟩ :: value.pieces)
      (closing :: rest))
    (hclosing : closing.lexeme = .closeBracket) :
    Returns (parseAttribute tokens) ⟨key, operator, value⟩ (closing :: rest) := by
  obtain ⟨⟨keyLexeme, keyOffset, keySpaced⟩, _, rfl, hkey, hsecond⟩ := Spells.cons_iff.mp h
  obtain ⟨⟨lexeme, offset, spaced⟩, behind, rfl, hoperator, hthird⟩ :=
    Spells.cons_iff.mp hsecond
  obtain ⟨text, rfl, rfl⟩ := Lexeme.part?_eq_key.mp hkey.part
  obtain rfl := Lexeme.part?_eq_operator.mp hoperator.part
  obtain ⟨hlt, hread⟩ := hvalue _ _ _ hcomposed hmeets hthird hclosing
  rw [parseAttribute.eq_def]
  exact returns_bind.mpr ⟨_, _, hlt, hread, returns_ok.mpr ⟨rfl, rfl⟩⟩

/-- Attributes in a row are read from what they span, if the value of the first one and the others
are. -/
theorem returns_parseAttributes_cons {key : KeyPath} {operator : Operator} {value : Value}
    {attributes : List Attribute} (hvalue : value.IsRead)
    (ih : ∀ tokens rest, Attribute.RowSpans attributes tokens rest →
      Returns (parseAttributes tokens) attributes rest)
    {tokens rest : List Token}
    (h : Attribute.RowSpans (⟨key, operator, value⟩ :: attributes) tokens rest) :
    Returns (parseAttributes tokens) (⟨key, operator, value⟩ :: attributes) rest := by
  have hcomposed := h.composed
  rw [Attribute.allMeet, Bool.and_eq_true, Bool.and_eq_true] at hcomposed
  obtain ⟨⟨hwritten, hmeets⟩, hothers⟩ := hcomposed
  obtain ⟨⟨lexeme, offset, spaced⟩, behind, rfl, hopening, hspelled⟩ :=
    Spells.cons_iff.mp h.spelled
  obtain ⟨middle, hfirst, hbehind⟩ := Spells.append_iff.mp hspelled
  obtain ⟨closing, behind', rfl, hclosing, hrow⟩ := Spells.cons_iff.mp hbehind
  obtain rfl := Lexeme.part?_eq_openBracket.mp hopening.part
  have hclose := Lexeme.part?_eq_closeBracket.mp hclosing.part
  obtain ⟨hlt, hread⟩ :=
    returns_parseAttribute hvalue (Bool.and_eq_true_iff.mp hwritten).2 hmeets hfirst hclose
  obtain ⟨hlt', hend⟩ := (returns_expect .closeBracket).mpr ⟨closing, rfl, hclose⟩
  obtain ⟨hlt'', hrest⟩ := ih _ _ ⟨hothers, hrow, h.ends⟩
  rw [parseAttributes.eq_def]
  exact returns_bind.mpr ⟨_, _, hlt, hread, returns_bind.mpr ⟨_, _, hlt', hend,
    returns_bind.mpr ⟨_, _, hlt'', hrest, returns_ok.mpr ⟨rfl, rfl⟩⟩⟩⟩

/-- No attribute is read where none follows. -/
theorem returns_parseAttributes_nil {tokens rest : List Token}
    (h : Attribute.RowSpans [] tokens rest) : Returns (parseAttributes tokens) [] rest := by
  obtain rfl := Spells.nil_iff.mp h.spelled
  rw [parseAttributes.eq_def]
  split
  · exact absurd rfl (h.ends _ rfl)
  · exact returns_ok.mpr ⟨rfl, rfl⟩

/-- The last selector of a chain is read when nothing behind it begins another one. -/
theorem returns_parseChain_last {selector : Selector} {tokens rest : List Token}
    (ih : ∀ tokens rest, selector.Spans tokens rest →
      Returns (parseSelector tokens) selector rest)
    (h : (Chain.last selector).Spans tokens rest) :
    Returns (parseChain tokens) (.last selector) rest := by
  obtain ⟨hlt, hread⟩ := ih _ _ ⟨h.composed, h.spelled, h.ends.2⟩
  rw [parseChain]
  refine returns_bind.mpr ⟨_, _, hlt, hread, ?_⟩
  dsimp only
  rw [h.ends.1]
  exact returns_ok.mpr ⟨rfl, rfl⟩

/-- A chain is read from what it spans, if its first selector and what is behind it are. -/
theorem returns_parseChain_link {selector : Selector} {chain : Chain} {tokens rest : List Token}
    (ih : ∀ tokens rest, selector.Spans tokens rest →
      Returns (parseSelector tokens) selector rest)
    (ih' : ∀ tokens rest, chain.Spans tokens rest → Returns (parseChain tokens) chain rest)
    (h : (Chain.link selector chain).Spans tokens rest) :
    Returns (parseChain tokens) (.link selector chain) rest := by
  have hmeets := h.composed
  rw [Chain.meets, Bool.and_eq_true] at hmeets
  obtain ⟨middle, hselector, hchain⟩ := Spells.append_iff.mp h.spelled
  obtain ⟨part, pieces, hpieces, hstarts⟩ := Chain.exists_pieces_eq_cons hmeets.2
  rw [hpieces] at hchain
  obtain ⟨hends, hchain⟩ := Selector.ends_of_spells_separate hstarts hchain
  have hgoes : startsSelector middle = true := by
    obtain ⟨token, behind, rfl, hfits, -⟩ := Spells.cons_iff.mp hchain
    rw [startsSelector_cons hfits.part, hstarts]
  rw [← hpieces] at hchain
  obtain ⟨hlt, hread⟩ := ih _ _ ⟨hmeets.1, hselector, hends⟩
  obtain ⟨hlt', hothers⟩ := ih' _ _ ⟨hmeets.2, hchain, h.ends⟩
  rw [parseChain]
  refine returns_bind.mpr ⟨_, _, hlt, hread, ?_⟩
  dsimp only
  rw [if_pos hgoes]
  exact returns_bind.mpr ⟨_, _, hlt', hothers, returns_ok.mpr ⟨rfl, rfl⟩⟩

/-- A query is read from what it spans, if its first alternative and the others are. -/
theorem returns_parseQuery_cons {chain : Chain} {query : Query} {tokens rest : List Token}
    (ih : ∀ tokens rest, chain.Spans tokens rest → Returns (parseChain tokens) chain rest)
    (ih' : ∀ tokens rest, query.Spans tokens rest → Returns (parseQuery tokens) query rest)
    (h : Query.Spans (chain :: query) tokens rest) :
    Returns (parseQuery tokens) (chain :: query) rest := by
  obtain ⟨-, hmeets⟩ := Query.isGrammatical_iff.mp h.composed
  rw [Chain.allMeet, Bool.and_eq_true] at hmeets
  rw [parseQuery]
  by_cases hquery : query = []
  · subst hquery
    obtain ⟨hlt, hread⟩ := ih _ _ ⟨hmeets.1, h.spelled, h.ends.2 _ rfl⟩
    refine returns_bind.mpr ⟨_, _, hlt, hread, ?_⟩
    dsimp only
    split
    · exact absurd rfl (h.ends.1 _ rfl)
    · exact returns_ok.mpr ⟨rfl, rfl⟩
  · have hspelled := h.spelled
    rw [Chain.listPieces_cons hquery] at hspelled
    obtain ⟨middle, hchain, hspelled⟩ := Spells.append_iff.mp hspelled
    obtain ⟨⟨lexeme, offset, spaced⟩, behind, rfl, hfits, hothers⟩ := Spells.cons_iff.mp hspelled
    obtain rfl := Lexeme.part?_eq_comma.mp hfits.part
    have hends : query.Ends rest := by
      refine ⟨h.ends.1, fun last hlast => h.ends.2 last ?_⟩
      rwa [List.getLast?_cons_of_ne_nil hquery]
    obtain ⟨hlt, hread⟩ := ih _ _ ⟨hmeets.1, hchain, Chain.ends_comma rfl⟩
    obtain ⟨hlt', hothers⟩ := ih' _ _
      ⟨Query.isGrammatical_iff.mpr ⟨hquery, hmeets.2⟩, hothers, hends⟩
    refine returns_bind.mpr ⟨_, _, hlt, hread, ?_⟩
    exact returns_bind.mpr ⟨_, _, hlt', hothers, returns_ok.mpr ⟨rfl, rfl⟩⟩

/-- The cases of the induction over queries that shows that readers read what spans tokens. -/
theorem readCases : QueryCases Value.IsRead
    (fun attributes => ∀ tokens rest, Attribute.RowSpans attributes tokens rest →
      Returns (parseAttributes tokens) attributes rest)
    (fun selector => ∀ tokens rest, selector.Spans tokens rest →
      Returns (parseSelector tokens) selector rest)
    (fun chain => ∀ tokens rest, chain.Spans tokens rest → Returns (parseChain tokens) chain rest)
    (fun query => ∀ tokens rest, Query.Spans query tokens rest →
      Returns (parseQuery tokens) query rest) where
  scalar _ harray hselector tokens closing rest hcomposed :=
    Value.isRead_of_isScalar (Value.isScalar_of_isComposed harray hselector hcomposed) tokens
      closing rest hcomposed
  array items _ := Value.isRead_array items
  selectorValue _ := Value.isRead_selector
  noAttribute _ _ := returns_parseAttributes_nil
  moreAttributes _ _ _ _ hvalue hrest _ _ := returns_parseAttributes_cons hvalue hrest
  selector _ hnext hattributes hquery _ _ := returns_parseSelector hnext hattributes hquery
  last _ ih _ _ := returns_parseChain_last ih
  link _ _ ih ih' _ _ := returns_parseChain_link ih ih'
  noChain _ _ h := absurd rfl (Query.isGrammatical_iff.mp h.composed).1
  moreChains _ _ ih ih' _ _ := returns_parseQuery_cons ih ih'

/-- **A query is read from tokens exactly when it spans them.** -/
theorem returns_parseQuery_iff {tokens rest : List Token} (hw : AreWritten tokens) {query : Query} :
    Returns (parseQuery tokens) query rest ↔ query.Spans tokens rest :=
  ⟨spans_of_returns_parseQuery hw rfl, readCases.ofQuery query tokens rest⟩

end TreeQuery
