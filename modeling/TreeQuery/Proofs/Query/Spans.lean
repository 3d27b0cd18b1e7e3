import TreeQuery.Proofs.Query.TokenReaders

/-!
# What the grammar says

A selector, a chain or a query **spans** tokens when it is composed as the grammar demands, its
pieces are spelled by them, and what follows does not belong to it. What a whole spans follows from
what its parts span, production by production.

## Main definitions

* `Selector.Spans`, `Chain.Spans`, `Query.Spans` — spanning tokens.
* `Selector.Ends` and its companions — that what follows does not belong to it.
-/

namespace TreeQuery

/-! ### Spans -/

/-- The last selector of a chain. -/
def Chain.final : Chain → Selector
  | .last selector => selector
  | .link _ rest => rest.final

/-- What follows a selector does not belong to it. -/
structure Selector.Ends (selector : Selector) (rest : List Token) : Prop where
  /-- No attribute that it would take. -/
  attributes : selector.takesPseudo = true → EndsAttributes rest
  /-- No pseudo class that it would take. -/
  pseudo : selector.takesPseudo = true → EndsPseudo rest
  /-- No position that it would take. -/
  position : selector.takesPosition = true → EndsPosition rest

/-- What follows a chain does not belong to it. -/
def Chain.Ends (chain : Chain) (rest : List Token) : Prop :=
  startsSelector rest = false ∧ chain.final.Ends rest

/-- What follows the alternatives of a query does not belong to it. -/
def Query.Ends (query : Query) (rest : List Token) : Prop :=
  (∀ token ∈ rest.head?, token.lexeme ≠ .comma) ∧ ∀ chain ∈ query.getLast?, chain.Ends rest

/-- Attributes span tokens. -/
structure Attribute.RowSpans (attributes : List Attribute) (tokens rest : List Token) : Prop where
  /-- They are composed as the grammar demands. -/
  composed : Attribute.allMeet grammar attributes = true
  /-- The tokens spell their pieces. -/
  spelled : Spells tokens (Attribute.rowPieces attributes) rest
  /-- What follows does not belong to them. -/
  ends : EndsAttributes rest

/-- A selector spans tokens. -/
structure Selector.Spans (selector : Selector) (tokens rest : List Token) : Prop where
  /-- It is composed as the grammar demands. -/
  composed : selector.meets grammar = true
  /-- The tokens spell its pieces. -/
  spelled : Spells tokens selector.pieces rest
  /-- What follows does not belong to it. -/
  ends : selector.Ends rest

/-- A chain spans tokens. -/
structure Chain.Spans (chain : Chain) (tokens rest : List Token) : Prop where
  /-- It is composed as the grammar demands. -/
  composed : chain.meets grammar = true
  /-- The tokens spell its pieces. -/
  spelled : Spells tokens chain.pieces rest
  /-- What follows does not belong to it. -/
  ends : chain.Ends rest

/-- A query spans tokens. -/
structure Query.Spans (query : Query) (tokens rest : List Token) : Prop where
  /-- It is composed as the grammar demands. -/
  composed : query.isGrammatical = true
  /-- The tokens spell its pieces. -/
  spelled : Spells tokens (Chain.listPieces query) rest
  /-- What follows does not belong to it. -/
  ends : query.Ends rest

/-! ### Where selectors begin -/

/-- Whether a part begins a selector. -/
def Part.startsSelector : Part → Bool
  | kind _ | scope _ | combinator _ | pseudo _ | position _ => true
  | _ => false

/-- Whether a selector starts at a token depends on the part that it stands for. -/
theorem startsSelector_cons {token : Token} {part : Part} {rest : List Token}
    (h : token.lexeme.part? = some part) :
    startsSelector (token :: rest) = part.startsSelector := by
  obtain ⟨lexeme, offset, spaced⟩ := token
  cases lexeme with
  | pattern source flags =>
    obtain ⟨pattern, -, rfl⟩ := Option.map_eq_some_iff.mp h
    rfl
  | endOfQuery => cases h
  | _ =>
    cases h
    rfl

/-- Behind a selector, the pieces of a further one may ask for the blank that keeps them apart. -/
theorem Selector.Ends.spells_separate {selector : Selector} {tokens rest : List Token}
    {pieces : List Piece} (hends : selector.Ends tokens) (h : Spells tokens pieces rest) :
    Spells tokens (Piece.separate selector.takes pieces) rest := by
  rcases h with _ | @⟨token, piece, behind, _, pieces, hfits, hrest⟩
  · exact .nil _
  · refine .cons ?_ hrest
    obtain ⟨part, spacing⟩ := piece
    split
    · rename_i htakes
      refine ⟨hfits.part, ?_⟩
      cases part with
      | pseudo pseudoClass =>
        exact hends.pseudo htakes _ rfl _ (Lexeme.part?_eq_pseudo.mp hfits.part)
      | position position =>
        exact hends.position htakes _ rfl _ (Lexeme.part?_eq_position.mp hfits.part)
      | _ => cases htakes
    · exact hfits

/-- Pieces kept apart from a selector before them do not belong to it. -/
theorem Selector.ends_of_spells_separate {selector : Selector} {part : Part}
    {tokens rest : List Token} {pieces : List Piece} (hstarts : part.startsSelector = true)
    (h : Spells tokens (Piece.separate selector.takes (⟨part, .free⟩ :: pieces)) rest) :
    selector.Ends tokens ∧ Spells tokens (⟨part, .free⟩ :: pieces) rest := by
  obtain ⟨token, behind, rfl, hfits, hrest⟩ := Spells.cons_iff.mp h
  have hpart : token.lexeme.part? = some part := by
    split at hfits <;> exact hfits.part
  have hspaced : selector.takes part = true → token.spaced = true := by
    intro htakes
    rw [if_pos htakes] at hfits
    exact hfits.spacing
  refine ⟨⟨?_, ?_, ?_⟩, .cons (Token.fits_free.mpr hpart) hrest⟩
  · rintro - _ ⟨⟩ hlexeme
    rw [hlexeme] at hpart
    cases hpart
    cases hstarts
  · rintro htakes _ ⟨⟩ pseudoClass hlexeme
    rw [hlexeme] at hpart
    cases hpart
    exact hspaced htakes
  · rintro htakes _ ⟨⟩ position hlexeme
    rw [hlexeme] at hpart
    cases hpart
    exact hspaced htakes

/-- A grammatical selector begins with a part that starts a selector and may stand anywhere. -/
theorem Selector.exists_pieces_eq_cons {selector : Selector}
    (h : selector.meets grammar = true) :
    ∃ part pieces, selector.pieces = ⟨part, .free⟩ :: pieces ∧ part.startsSelector = true := by
  have hcomposed : selector.isComposed = true := (meets_iff.mp h).1
  rcases eq_of_isComposed hcomposed with ⟨path, next, -, rfl⟩ | ⟨combinator, next, rfl⟩ |
    ⟨⟨kind, attributes⟩, pseudoTest, position, -, rfl⟩ | ⟨⟨pseudoClass, query⟩, position, rfl⟩ |
    ⟨position, rfl⟩
  · exact ⟨_, _, pieces_scope path next, rfl⟩
  · exact ⟨_, _, pieces_combinator combinator next, rfl⟩
  · exact ⟨_, _, pieces_kind kind attributes pseudoTest position, rfl⟩
  · exact ⟨_, _, pieces_pseudo ⟨pseudoClass, query⟩ position, rfl⟩
  · exact ⟨_, _, pieces_position position, rfl⟩

/-- A grammatical chain begins with a part that starts a selector and may stand anywhere. -/
theorem Chain.exists_pieces_eq_cons {chain : Chain} (h : chain.meets grammar = true) :
    ∃ part pieces, chain.pieces = ⟨part, .free⟩ :: pieces ∧ part.startsSelector = true := by
  cases chain with
  | last selector => exact Selector.exists_pieces_eq_cons h
  | link selector rest =>
    rw [meets, Bool.and_eq_true] at h
    obtain ⟨part, pieces, heq, hstarts⟩ := Selector.exists_pieces_eq_cons h.1
    exact ⟨part, _, by rw [Chain.pieces, heq, List.cons_append], hstarts⟩

/-! ### Spans from the spans of parts -/

/-- Between the first alternative and the others there is a comma. -/
theorem Chain.listPieces_cons {chain : Chain} {query : Query} (h : query ≠ []) :
    Chain.listPieces (chain :: query) =
      chain.pieces ++ ⟨.comma, .free⟩ :: Chain.listPieces query := by
  obtain ⟨next, rest, rfl⟩ := List.exists_cons_of_ne_nil h
  rw [Chain.listPieces]

/-- A query is grammatical if it has alternatives and all of them meet the grammar. -/
theorem Query.isGrammatical_iff {query : Query} :
    query.isGrammatical = true ↔ query ≠ [] ∧ Chain.allMeet grammar query = true := by
  cases query <;> simp [isGrammatical]

/-- One more alternative in front. -/
theorem Query.Spans.cons {chain : Chain} {query : Query} {tokens behind rest : List Token}
    {comma : Token} (hchain : chain.Spans tokens (comma :: behind)) (hcomma : comma.lexeme = .comma)
    (hquery : query.Spans behind rest) : Query.Spans (chain :: query) tokens rest := by
  obtain ⟨hne, hall⟩ := Query.isGrammatical_iff.mp hquery.composed
  refine ⟨Query.isGrammatical_iff.mpr ⟨by simp, ?_⟩, ?_, hquery.ends.1, ?_⟩
  · rw [Chain.allMeet, hchain.composed, hall]
    rfl
  · rw [Chain.listPieces_cons hne]
    refine hchain.spelled.append (.cons (Token.fits_free.mpr ?_) hquery.spelled)
    rw [hcomma]
    rfl
  · intro last hlast
    rw [List.getLast?_cons_of_ne_nil hne] at hlast
    exact hquery.ends.2 last hlast

/-- A single alternative spans what its chain spans. -/
theorem Query.Spans.single {chain : Chain} {tokens rest : List Token}
    (hchain : chain.Spans tokens rest) (hrest : ∀ token ∈ rest.head?, token.lexeme ≠ .comma) :
    Query.Spans [chain] tokens rest := by
  refine ⟨Query.isGrammatical_iff.mpr ⟨by simp, ?_⟩, hchain.spelled, hrest, ?_⟩
  · rw [Chain.allMeet, hchain.composed]
    rfl
  · rintro _ ⟨⟩
    exact hchain.ends

/-- A link of a chain in front. -/
theorem Chain.Spans.link {selector : Selector} {chain : Chain} {tokens behind rest : List Token}
    (hselector : selector.Spans tokens behind) (hchain : chain.Spans behind rest) :
    Chain.Spans (.link selector chain) tokens rest := by
  refine ⟨?_, ?_, hchain.ends⟩
  · rw [Chain.meets, hselector.composed, hchain.composed]
    rfl
  · rw [Chain.pieces]
    exact hselector.spelled.append (hselector.ends.spells_separate hchain.spelled)

/-- A move in front of a selector, which one token spells. -/
theorem Selector.Spans.move {scope : Option KeyPath} {combinator : Option Combinator}
    {next : Selector} {part : Part} {token : Token} {behind rest : List Token}
    (hcomposed : isComposed { scope := scope, combinator := combinator, next := some next } = true)
    (hpieces : pieces { scope := scope, combinator := combinator, next := some next } =
      ⟨part, .free⟩ :: next.pieces)
    (htoken : token.lexeme.part? = some part) (hnext : next.Spans behind rest) :
    Selector.Spans { scope := scope, combinator := combinator, next := some next }
      (token :: behind) rest := by
  refine ⟨Selector.meets_iff.mpr ⟨hcomposed, ?_, by simp, by simp⟩, ?_,
    ⟨hnext.ends.attributes, hnext.ends.pseudo, hnext.ends.position⟩⟩
  · rintro _ ⟨⟩
    exact hnext.composed
  · rw [hpieces]
    exact .cons (Token.fits_free.mpr htoken) hnext.spelled

/-- A scope in front of a selector. -/
theorem Selector.Spans.scope {path : KeyPath} {next : Selector} {token : Token}
    {behind rest : List Token} (hpath : path.isScope = true)
    (htoken : token.lexeme.part? = some (.scope path)) (hnext : next.Spans behind rest) :
    Selector.Spans { scope := some path, next := some next } (token :: behind) rest :=
  move hpath (pieces_scope path next) htoken hnext

/-- A combinator in front of a selector. -/
theorem Selector.Spans.combinator {combinator : Combinator} {next : Selector} {token : Token}
    {behind rest : List Token} (htoken : token.lexeme.part? = some (.combinator combinator))
    (hnext : next.Spans behind rest) :
    Selector.Spans { combinator := some combinator, next := some next } (token :: behind) rest :=
  move rfl (pieces_combinator combinator next) htoken hnext

/-- What an optional test by what can be found below spans. -/
structure PseudoSpans (test : Option PseudoTest) (tokens rest : List Token) : Prop where
  /-- It is composed as the grammar demands. -/
  composed : ∀ found ∈ test, Query.isGrammatical found.query = true
  /-- The tokens spell its pieces. -/
  spelled : Spells tokens (pseudoPieces .attached test) rest
  /-- If it is missing, none follows. -/
  ends : test = none → EndsPseudo rest

/-- What an optional position spans. -/
structure PositionSpans (position : Option Position) (tokens rest : List Token) : Prop where
  /-- The tokens spell its pieces. -/
  spelled : Spells tokens (positionPieces .attached position) rest
  /-- If it is missing, none follows. -/
  ends : position = none → EndsPosition rest

/-- A test of nodes that begins with a kind. -/
theorem Selector.Spans.kind {kind : String} {attributes : List Attribute}
    {pseudoTest : Option PseudoTest} {position : Option Position} {token : Token}
    {behind behind' behind'' rest : List Token} (hkind : isKindName kind = true)
    (htoken : token.lexeme.part? = some (.kind kind))
    (hattributes : Attribute.RowSpans attributes behind behind')
    (hpseudo : PseudoSpans pseudoTest behind' behind'')
    (hposition : PositionSpans position behind'' rest) :
    Selector.Spans
      { kindTest := some ⟨kind, attributes⟩, pseudoTest := pseudoTest, position := position }
      (token :: behind) rest := by
  refine ⟨Selector.meets_iff.mpr ⟨hkind, by simp, ?_, ?_⟩, ?_, ⟨?_, ?_, ?_⟩⟩
  · rintro _ ⟨⟩
    exact hattributes.composed
  · intro test htest
    have hgrammatical := hpseudo.composed test htest
    rw [Query.isGrammatical, Bool.and_eq_true] at hgrammatical
    exact hgrammatical
  · rw [Selector.pieces_kind]
    exact .cons (Token.fits_free.mpr htoken)
      (hattributes.spelled.append (hpseudo.spelled.append hposition.spelled))
  · cases pseudoTest with
    | some test => intro h; cases h
    | none =>
      cases position with
      | some position => intro h; cases h
      | none =>
        intro _
        obtain rfl := Spells.nil_iff.mp hpseudo.spelled
        obtain rfl := Spells.nil_iff.mp hposition.spelled
        exact hattributes.ends
  · cases pseudoTest with
    | some test => intro h; cases h
    | none =>
      cases position with
      | some position => intro h; cases h
      | none =>
        intro _
        obtain rfl := Spells.nil_iff.mp hposition.spelled
        exact hpseudo.ends rfl
  · cases position with
    | some position => intro h; cases h
    | none => exact fun _ => hposition.ends rfl

/-- A test of nodes that begins with a pseudo class. -/
theorem Selector.Spans.pseudo {test : PseudoTest} {position : Option Position}
    {tokens behind rest : List Token} (hquery : Query.isGrammatical test.query = true)
    (hspelled : Spells tokens (test.pieces .free) behind)
    (hposition : PositionSpans position behind rest) :
    Selector.Spans { pseudoTest := some test, position := position } tokens rest := by
  refine ⟨Selector.meets_iff.mpr ⟨rfl, by simp, by simp, ?_⟩, ?_, ⟨?_, ?_, ?_⟩⟩
  · rintro _ ⟨⟩
    rw [Query.isGrammatical, Bool.and_eq_true] at hquery
    exact hquery
  · rw [Selector.pieces_pseudo]
    exact hspelled.append hposition.spelled
  · intro h
    cases h
  · intro h
    cases h
  · cases position with
    | some position => intro h; cases h
    | none => exact fun _ => hposition.ends rfl

/-- A selector that is a position alone spans its token. -/
theorem Selector.Spans.position {position : Position} {token : Token} {rest : List Token}
    (htoken : token.lexeme.part? = some (.position position)) :
    Selector.Spans { position := some position } (token :: rest) rest := by
  refine ⟨Selector.meets_iff.mpr ⟨rfl, by simp, by simp, by simp⟩, ?_,
    ⟨fun h => (by cases h), fun h => (by cases h), fun h => (by cases h)⟩⟩
  rw [Selector.pieces_position]
  exact .single (Token.fits_free.mpr htoken)

end TreeQuery
