import TreeQuery.Fallible
import TreeQuery.Query.Lexer
import TreeQuery.Tree.Resolve

/-!
# Reading queries

Queries are read from tokens by recursive descent over the grammar

* query: chains with a comma between two of them
* chain: one or more selectors
* selector: a scope and a selector, a combinator and a selector, or a compound
* compound: a kind with attributes, a pseudo class and a position, each of them optional but not
  all of them missing
* pseudo class: its name and a query in parentheses
* attribute: a key, an operator and a value in brackets
* value: scalars in parentheses, a compound that begins with a kind, or a scalar

**A blank separates**: a pseudo class or position with a blank before it belongs to no part before
it and begins a selector of its own.

What a reader returns says in its type that tokens were taken, which is why reading ends.

## Main definitions

* `Value.ofWord` — what an unquoted word means.
* `parseQuery` — the query at the front of a list of tokens.
* `Query.ofText` — the query that a text spells.
-/

namespace TreeQuery

/-! ### Words -/

/-- Whether a word looks like a number: a digit in front, or behind a minus. -/
def looksNumeric : List Char → Bool
  | '-' :: c :: _ => c.isDigit
  | c :: _ => c.isDigit
  | [] => false

/-- What an unquoted word means. A word that looks like a number but reads as none is an
identifier, as is a colon alone. -/
def Value.ofWord (word : String) : Value :=
  match word.toList with
  | ['t', 'r', 'u', 'e'] => .boolean true
  | ['f', 'a', 'l', 's', 'e'] => .boolean false
  | ['n', 'i', 'l'] => .nil
  | ':' :: c :: rest => .symbol (String.ofList (c :: rest))
  | letters =>
    if looksNumeric letters then
      match readInt64? 10 letters, readBinary64? letters with
      | some value, _ => .integer value
      | none, some value => .float value
      | none, none => .identifier word
    else .identifier word

/-- What a quoted text means: with the opening of a marker in it, a template. -/
def Value.ofQuoted (text : String) : Value :=
  if Template.hasMarker text.toList then .template text else .text text

/-! ### Reading single tokens -/

/-- The outcome of reading from the front of fewer than `bound` tokens. -/
abbrev Reading (α : Type) (bound : Nat) := Except ParseError (Parsed Token α bound)

/-- The error of meeting the first of the tokens where something else was expected. The tokens of a
text end with the end of the query, so that there always is a first one. -/
def refuse (expected : Expected) : List Token → ParseError
  | [] => .unexpectedEnd expected 0
  | ⟨.endOfQuery, offset, _⟩ :: _ => .unexpectedEnd expected offset
  | ⟨lexeme, offset, _⟩ :: _ => .unexpectedToken lexeme.toText expected offset

/-- Takes a lexeme that has to come next. -/
def expect (lexeme : Lexeme) (expected : Expected) :
    (tokens : List Token) → Reading Unit tokens.length
  | [] => .error (refuse expected [])
  | token :: rest =>
    if token.lexeme = lexeme then .ok ⟨(), rest, Nat.lt_succ_self _⟩
    else .error (refuse expected (token :: rest))

/-- Takes a position that stands directly behind what was read before. -/
def takePosition (tokens : List Token) : Parsed Token (Option Position) (tokens.length + 1) :=
  match tokens with
  | ⟨.position position, _, false⟩ :: rest =>
    ⟨some position, rest, Nat.lt_succ_of_lt (Nat.lt_succ_self _)⟩
  | tokens => ⟨none, tokens, Nat.lt_succ_self _⟩

/-- Reads a value that is neither an array nor a selector. -/
def parseScalar : (tokens : List Token) → Reading Value tokens.length
  | ⟨.text text, _, _⟩ :: rest => .ok ⟨.ofQuoted text, rest, Nat.lt_succ_self _⟩
  | ⟨.word word, _, _⟩ :: rest => .ok ⟨.ofWord word, rest, Nat.lt_succ_self _⟩
  | ⟨.pattern source flags, offset, _⟩ :: rest =>
    match Pattern.ofSource? source flags with
    | some pattern => .ok ⟨.pattern pattern, rest, Nat.lt_succ_self _⟩
    | none => .error (.invalidPattern offset)
  | tokens => .error (refuse .value tokens)

/-- Reads the elements of an array and its closing parenthesis. -/
def parseElements (tokens : List Token) : Reading (List Value) tokens.length :=
  match tokens with
  | ⟨.closeParen, _, _⟩ :: rest => .ok ⟨[], rest, Nat.lt_succ_self _⟩
  | tokens => do
    let first ← parseScalar tokens
    let others ← parseElements first.rest
    return ⟨first.value :: others.value, others.rest, Nat.lt_trans others.rest_lt first.rest_lt⟩
termination_by tokens.length
decreasing_by exact first.rest_lt

/-! ### Reading queries -/

/-- Whether a further selector of the same chain begins here. -/
def startsSelector : List Token → Bool
  | ⟨.kind _, _, _⟩ :: _ => true
  | ⟨.scope _, _, _⟩ :: _ => true
  | ⟨.combinator _, _, _⟩ :: _ => true
  | ⟨.pseudo _, _, _⟩ :: _ => true
  | ⟨.position _, _, _⟩ :: _ => true
  | _ => false

mutual

/-- Reads chains with a comma between two of them. -/
def parseQuery (tokens : List Token) : Reading Query tokens.length := do
  let first ← parseChain tokens
  match h : first.rest with
  | ⟨.comma, _, _⟩ :: behind =>
    have hlt : behind.length < tokens.length := by
      have := first.rest_lt
      rw [h] at this
      exact Nat.lt_of_succ_lt this
    let others ← parseQuery behind
    return ⟨first.value :: others.value, others.rest, Nat.lt_trans others.rest_lt hlt⟩
  | _ => return ⟨[first.value], first.rest, first.rest_lt⟩
termination_by (tokens.length, 3)
decreasing_by
  · exact Prod.Lex.right _ (by decide)
  · exact Prod.Lex.left _ _ hlt

/-- Reads selectors as long as a further one begins. -/
def parseChain (tokens : List Token) : Reading Chain tokens.length := do
  let first ← parseSelector tokens
  if startsSelector first.rest then
    let others ← parseChain first.rest
    return ⟨.link first.value others.value, others.rest,
      Nat.lt_trans others.rest_lt first.rest_lt⟩
  else return ⟨.last first.value, first.rest, first.rest_lt⟩
termination_by (tokens.length, 2)
decreasing_by
  · exact Prod.Lex.right _ (by decide)
  · exact Prod.Lex.left _ _ first.rest_lt

/-- Reads a scope or combinator with the selector behind it, or a compound. -/
def parseSelector (tokens : List Token) : Reading Selector tokens.length :=
  match tokens with
  | ⟨.scope path, _, _⟩ :: rest => do
    let next ← parseSelector rest
    return ⟨{ scope := some (KeyPath.ofChars path.toList), next := some next.value }, next.rest,
      Nat.lt_succ_of_lt next.rest_lt⟩
  | ⟨.combinator combinator, _, _⟩ :: rest => do
    let next ← parseSelector rest
    return ⟨{ combinator := some combinator, next := some next.value }, next.rest,
      Nat.lt_succ_of_lt next.rest_lt⟩
  | tokens => parseCompound tokens
termination_by (tokens.length, 1)
decreasing_by
  · exact Prod.Lex.left _ _ (Nat.lt_succ_self _)
  · exact Prod.Lex.left _ _ (Nat.lt_succ_self _)
  · exact Prod.Lex.right _ (by decide)

/-- Reads a test of nodes. -/
def parseCompound (tokens : List Token) : Reading Selector tokens.length :=
  match tokens with
  | ⟨.kind kind, _, _⟩ :: rest => do
    let attributes ← parseAttributes rest
    let pseudoTest ← parseAttachedPseudo attributes.rest
    let position := takePosition pseudoTest.rest
    return ⟨{ kindTest := some ⟨kind, attributes.value⟩, pseudoTest := pseudoTest.value,
              position := position.value }, position.rest,
      Nat.lt_of_lt_of_le position.rest_lt
        (Nat.le_trans pseudoTest.rest_lt attributes.rest_lt)⟩
  | ⟨.pseudo pseudoClass, _, _⟩ :: rest => do
    let query ← parsePseudoQuery rest
    let position := takePosition query.rest
    return ⟨{ pseudoTest := some ⟨pseudoClass, query.value⟩, position := position.value },
      position.rest, Nat.lt_trans (Nat.lt_of_lt_of_le position.rest_lt query.rest_lt)
        (Nat.lt_succ_self _)⟩
  | ⟨.position position, _, _⟩ :: rest =>
    .ok ⟨{ position := some position }, rest, Nat.lt_succ_self _⟩
  | tokens => .error (refuse .selector tokens)
termination_by (tokens.length, 0)
decreasing_by
  · exact Prod.Lex.left _ _ (Nat.lt_succ_self _)
  · exact Prod.Lex.left _ _ attributes.rest_lt
  · exact Prod.Lex.left _ _ (Nat.lt_succ_self _)

/-- Reads the query of a pseudo class in its parentheses. -/
def parsePseudoQuery (tokens : List Token) : Reading Query tokens.length := do
  let opening ← expect .openParen .openParen tokens
  let query ← parseQuery opening.rest
  let closing ← expect .closeParen .closeParen query.rest
  return ⟨query.value, closing.rest,
    Nat.lt_trans closing.rest_lt (Nat.lt_trans query.rest_lt opening.rest_lt)⟩
termination_by (tokens.length, 0)
decreasing_by exact Prod.Lex.left _ _ opening.rest_lt

/-- Reads a pseudo class that stands directly behind what was read before. -/
def parseAttachedPseudo (tokens : List Token) :
    Reading (Option PseudoTest) (tokens.length + 1) :=
  match tokens with
  | ⟨.pseudo pseudoClass, _, false⟩ :: rest => do
    let query ← parsePseudoQuery rest
    return ⟨some ⟨pseudoClass, query.value⟩, query.rest,
      Nat.lt_succ_of_lt (Nat.lt_succ_of_lt query.rest_lt)⟩
  | tokens => .ok ⟨none, tokens, Nat.lt_succ_self _⟩
termination_by (tokens.length, 0)
decreasing_by exact Prod.Lex.left _ _ (Nat.lt_succ_self _)

/-- Reads attributes, each in its brackets. -/
def parseAttributes (tokens : List Token) :
    Reading (List Attribute) (tokens.length + 1) :=
  match tokens with
  | ⟨.openBracket, _, _⟩ :: rest => do
    let first ← parseAttribute rest
    let closing ← expect .closeBracket .closeBracket first.rest
    have hlt : closing.rest.length < rest.length := Nat.lt_trans closing.rest_lt first.rest_lt
    let others ← parseAttributes closing.rest
    return ⟨first.value :: others.value, others.rest,
      Nat.lt_succ_of_lt (Nat.lt_of_lt_of_le others.rest_lt (Nat.succ_le_succ (Nat.le_of_lt hlt)))⟩
  | tokens => .ok ⟨[], tokens, Nat.lt_succ_self _⟩
termination_by (tokens.length, 0)
decreasing_by
  · exact Prod.Lex.left _ _ (Nat.lt_succ_self _)
  · exact Prod.Lex.left _ _ (Nat.lt_succ_of_lt hlt)

/-- Reads an attribute without its brackets. -/
def parseAttribute (tokens : List Token) : Reading Attribute tokens.length :=
  match tokens with
  | ⟨.key path, _, _⟩ :: ⟨.operator operator, _, _⟩ :: rest => do
    let value ← parseValue rest
    return ⟨⟨KeyPath.ofChars path.toList, operator, value.value⟩, value.rest,
      Nat.lt_succ_of_lt (Nat.lt_succ_of_lt value.rest_lt)⟩
  | ⟨.key _, _, _⟩ :: rest => .error (refuse .operator rest)
  | tokens => .error (refuse .attributeKey tokens)
termination_by (tokens.length, 0)
decreasing_by exact Prod.Lex.left _ _ (Nat.lt_succ_of_lt (Nat.lt_succ_self _))

/-- Reads a value. -/
def parseValue (tokens : List Token) : Reading Value tokens.length :=
  match tokens with
  | ⟨.openParen, _, _⟩ :: rest => do
    let elements ← parseElements rest
    return ⟨.array elements.value, elements.rest, Nat.lt_succ_of_lt elements.rest_lt⟩
  | ⟨.kind kind, offset, spaced⟩ :: rest => do
    let selector ← parseCompound (⟨.kind kind, offset, spaced⟩ :: rest)
    return ⟨.selector selector.value, selector.rest, selector.rest_lt⟩
  | tokens => parseScalar tokens
termination_by (tokens.length, 1)
decreasing_by exact Prod.Lex.right _ (by decide)

end

namespace Query

/-- The query that the tokens of a whole text spell. -/
def ofTokens (tokens : List Token) : Except ParseError Query := do
  let query ← parseQuery tokens
  match query.rest with
  | ⟨.endOfQuery, _, _⟩ :: _ => return query.value
  | rest => .error (refuse .commaOrEnd rest)

/-- The query that a text spells. **A text that cannot be cut into tokens is refused for that**,
wherever its tokens before might have been refused too. -/
def ofText (text : String) : Except ParseError Query := do
  ofTokens (← tokenize text)

end Query

end TreeQuery
