import TreeQuery.Proofs.Query.Syntax
import TreeQuery.Query.Parser

/-!
# Queries as rows of pieces

A query is written as a row of pieces. A piece is a part of the query, such as a kind or a value,
together with what it asks of the blank before it: a pseudo class or position that belongs to what
stands before it is attached, and one that does not is set apart where it could be taken for
attached. Tokens spell pieces one by one, and **which tokens spell a query is said by its pieces
alone**, without reading.

## Main definitions

* `Lexeme.part?` — the part that a lexeme stands for.
* `Selector.pieces` and its companions — the pieces of a query.
* `Spells` — tokens that begin with the spelling of pieces.
-/

namespace TreeQuery

/-! ### Parts and pieces -/

/-- A part of a query that one token spells. -/
inductive Part where
  /-- A kind. -/
  | kind (name : String)
  /-- A path before a selector. -/
  | scope (path : KeyPath)
  /-- The opening of an attribute. -/
  | openBracket
  /-- The end of an attribute. -/
  | closeBracket
  /-- The opening of an array or of the query of a pseudo class. -/
  | openParen
  /-- The end of what a parenthesis opened. -/
  | closeParen
  /-- The mark between alternatives. -/
  | comma
  /-- A combinator. -/
  | combinator (combinator : Combinator)
  /-- A pseudo class. -/
  | pseudo (pseudoClass : PseudoClass)
  /-- A position. -/
  | position (position : Position)
  /-- The key of an attribute. -/
  | key (path : KeyPath)
  /-- An operator. -/
  | operator (operator : Operator)
  /-- A value that is neither an array nor a selector. -/
  | scalar (value : Value)

/-- The part that a lexeme stands for. Different lexemes can stand for one part; the end of the
query and a pattern that is none stand for nothing. -/
def Lexeme.part? : Lexeme → Option Part
  | kind name => some (.kind name)
  | scope path => some (.scope (KeyPath.ofChars path.toList))
  | openBracket => some .openBracket
  | closeBracket => some .closeBracket
  | openParen => some .openParen
  | closeParen => some .closeParen
  | comma => some .comma
  | combinator c => some (.combinator c)
  | pseudo p => some (.pseudo p)
  | position p => some (.position p)
  | key path => some (.key (KeyPath.ofChars path.toList))
  | operator op => some (.operator op)
  | text value => some (.scalar (.ofQuoted value))
  | word value => some (.scalar (.ofWord value))
  | pattern source flags => (Pattern.ofSource? source flags).map fun p => .scalar (.pattern p)
  | endOfQuery => none

/-- What a piece asks of the blank before it. -/
inductive Spacing where
  /-- Nothing. -/
  | free
  /-- That there is none. -/
  | attached
  /-- That there is one. -/
  | apart
  deriving DecidableEq

/-- Whether a piece may stand behind a blank, or behind none. -/
def Spacing.admits : Spacing → Bool → Bool
  | free, _ => true
  | attached, spaced => !spaced
  | apart, spaced => spaced

/-- A part with what it asks of the blank before it. -/
structure Piece where
  /-- The part. -/
  part : Part
  /-- What is asked of the blank before. -/
  spacing : Spacing := .free

/-- The first of some pieces is set apart if it is taken for attached otherwise. -/
def Piece.separate (taken : Part → Bool) : List Piece → List Piece
  | [] => []
  | piece :: rest => (if taken piece.part then ⟨piece.part, .apart⟩ else piece) :: rest

/-- The test of nodes that a selector ends with, behind all its moves. -/
def Selector.innermost : Selector → Selector
  | ⟨_, _, some next, _, _, _⟩ => next.innermost
  | ⟨scope, combinator, none, kindTest, pseudoTest, position⟩ =>
    ⟨scope, combinator, none, kindTest, pseudoTest, position⟩

/-- Whether a selector takes attributes and a pseudo class directly behind it for its own: it ends
with a kind and attributes only. -/
def Selector.takesPseudo (selector : Selector) : Bool :=
  selector.innermost.kindTest.isSome && selector.innermost.pseudoTest.isNone &&
    selector.innermost.position.isNone

/-- Whether a selector takes a position directly behind it for its own. -/
def Selector.takesPosition (selector : Selector) : Bool :=
  (selector.innermost.kindTest.isSome || selector.innermost.pseudoTest.isSome) &&
    selector.innermost.position.isNone

/-- Whether a selector takes a first part of another one directly behind it for its own. -/
def Selector.takes (selector : Selector) : Part → Bool
  | .pseudo _ => selector.takesPseudo
  | .position _ => selector.takesPosition
  | _ => false

/-- The pieces of a position that may be missing. -/
def positionPieces (spacing : Spacing) : Option Position → List Piece
  | some position => [⟨.position position, spacing⟩]
  | none => []

/-- The pieces of the elements of an array and of its end. -/
def elementPieces : List Value → List Piece
  | [] => [⟨.closeParen, .free⟩]
  | value :: rest => ⟨.scalar value, .free⟩ :: elementPieces rest

mutual

/-- The pieces of a value. -/
def Value.pieces : Value → List Piece
  | .array items => ⟨.openParen, .free⟩ :: elementPieces items
  | .selector selector => selector.pieces
  | value => [⟨.scalar value, .free⟩]

/-- The pieces of several attributes. -/
def Attribute.rowPieces : List Attribute → List Piece
  | [] => []
  | ⟨key, operator, value⟩ :: rest =>
    ⟨.openBracket, .free⟩ :: ⟨.key key, .free⟩ :: ⟨.operator operator, .free⟩ :: value.pieces ++
      ⟨.closeBracket, .free⟩ :: Attribute.rowPieces rest

/-- The pieces of a test by kind. -/
def KindTest.pieces : KindTest → List Piece
  | ⟨kind, attributes⟩ => ⟨.kind kind, .free⟩ :: Attribute.rowPieces attributes

/-- The pieces of a test by what can be found below. -/
def PseudoTest.pieces (spacing : Spacing) : PseudoTest → List Piece
  | ⟨pseudoClass, query⟩ =>
    ⟨.pseudo pseudoClass, spacing⟩ :: ⟨.openParen, .free⟩ :: Chain.listPieces query ++
      [⟨.closeParen, .free⟩]

/-- The pieces of a selector. -/
def Selector.pieces : Selector → List Piece
  | ⟨scope, combinator, next, kindTest, pseudoTest, position⟩ =>
    (match scope with
      | some path => [⟨.scope path, .free⟩]
      | none => []) ++
    (match combinator with
      | some combinator => [⟨.combinator combinator, .free⟩]
      | none => []) ++
    (match next with
      | some selector => selector.pieces
      | none => []) ++
    (match kindTest with
      | some test => test.pieces
      | none => []) ++
    (match pseudoTest with
      | some test => test.pieces (if kindTest.isSome then .attached else .free)
      | none => []) ++
    positionPieces (if kindTest.isSome || pseudoTest.isSome then .attached else .free) position

/-- The pieces of a chain. -/
def Chain.pieces : Chain → List Piece
  | .last selector => selector.pieces
  | .link selector rest => selector.pieces ++ Piece.separate selector.takes rest.pieces

/-- The pieces of several alternatives. -/
def Chain.listPieces : List Chain → List Piece
  | [] => []
  | [chain] => chain.pieces
  | chain :: next :: rest =>
    chain.pieces ++ ⟨.comma, .free⟩ :: Chain.listPieces (next :: rest)

end

/-- The pieces of a test by what can be found below that may be missing. -/
def pseudoPieces (spacing : Spacing) : Option PseudoTest → List Piece
  | some test => test.pieces spacing
  | none => []

namespace Selector

/-- A scope comes before the selector behind it. -/
theorem pieces_scope (path : KeyPath) (next : Selector) :
    pieces { scope := some path, next := some next } = ⟨.scope path, .free⟩ :: next.pieces := by
  simp [pieces, positionPieces]

/-- A combinator comes before the selector behind it. -/
theorem pieces_combinator (combinator : Combinator) (next : Selector) :
    pieces { combinator := some combinator, next := some next } =
      ⟨.combinator combinator, .free⟩ :: next.pieces := by
  simp [pieces, positionPieces]

/-- A kind comes before its attributes, and a pseudo class and a position are attached to it. -/
theorem pieces_kind (kind : String) (attributes : List Attribute) (pseudoTest : Option PseudoTest)
    (position : Option Position) :
    pieces { kindTest := some ⟨kind, attributes⟩, pseudoTest := pseudoTest, position := position } =
      ⟨.kind kind, .free⟩ :: (Attribute.rowPieces attributes ++
        (pseudoPieces .attached pseudoTest ++ positionPieces .attached position)) := by
  cases pseudoTest <;> simp [pieces, KindTest.pieces, pseudoPieces]

/-- A pseudo class comes before the position that is attached to it. -/
theorem pieces_pseudo (test : PseudoTest) (position : Option Position) :
    pieces { pseudoTest := some test, position := position } =
      test.pieces .free ++ positionPieces .attached position := by
  simp [pieces]

theorem pieces_position (position : Position) :
    pieces { position := some position } = [⟨.position position, .free⟩] := by
  simp [pieces, positionPieces]

end Selector

/-! ### Tokens that spell pieces -/

/-- Whether a token spells a piece. -/
structure Token.Fits (token : Token) (piece : Piece) : Prop where
  /-- The lexeme stands for the part. -/
  part : token.lexeme.part? = some piece.part
  /-- The blank before is as asked. -/
  spacing : piece.spacing.admits token.spaced = true

/-- The tokens begin with the spelling of the pieces; `rest` is what is left. -/
inductive Spells : List Token → List Piece → List Token → Prop where
  /-- No piece is spelled by no token. -/
  | nil (rest : List Token) : Spells rest [] rest
  /-- A piece is spelled by one token. -/
  | cons {token : Token} {piece : Piece} {tokens rest : List Token} {pieces : List Piece} :
      token.Fits piece → Spells tokens pieces rest → Spells (token :: tokens) (piece :: pieces) rest

namespace Spells

variable {tokens middle rest : List Token} {pieces morePieces : List Piece}

theorem single {token : Token} {piece : Piece} (h : token.Fits piece) :
    Spells (token :: rest) [piece] rest :=
  .cons h (.nil rest)

/-- The spelling of pieces may be put behind that of others. -/
theorem append (h : Spells tokens pieces middle) (h' : Spells middle morePieces rest) :
    Spells tokens (pieces ++ morePieces) rest := by
  induction h with
  | nil => exact h'
  | cons hfits _ ih => exact .cons hfits (ih h')

/-- More tokens behind the rest change nothing. -/
theorem with_rest (h : Spells tokens pieces rest) (more : List Token) :
    Spells (tokens ++ more) pieces (rest ++ more) := by
  induction h with
  | nil => exact .nil _
  | cons hfits _ ih => exact .cons hfits ih

/-- Pieces in two groups are spelled one group behind the other. -/
theorem append_iff :
    Spells tokens (pieces ++ morePieces) rest ↔
      ∃ middle, Spells tokens pieces middle ∧ Spells middle morePieces rest := by
  constructor
  · intro h
    induction pieces generalizing tokens with
    | nil => exact ⟨tokens, .nil tokens, h⟩
    | cons piece pieces ih =>
      rcases h with _ | ⟨hfits, hrest⟩
      obtain ⟨middle, hfirst, hsecond⟩ := ih hrest
      exact ⟨middle, .cons hfits hfirst, hsecond⟩
  · rintro ⟨middle, hfirst, hsecond⟩
    exact hfirst.append hsecond

/-- The first piece is spelled by the first token. -/
theorem cons_iff {piece : Piece} :
    Spells tokens (piece :: pieces) rest ↔
      ∃ token behind, tokens = token :: behind ∧ token.Fits piece ∧ Spells behind pieces rest := by
  constructor
  · rintro (_ | ⟨hfits, hrest⟩)
    exact ⟨_, _, rfl, hfits, hrest⟩
  · rintro ⟨token, behind, rfl, hfits, hrest⟩
    exact .cons hfits hrest

theorem nil_iff : Spells tokens [] rest ↔ tokens = rest := by
  constructor
  · rintro ⟨⟩
    rfl
  · rintro rfl
    exact .nil tokens

end Spells

end TreeQuery
