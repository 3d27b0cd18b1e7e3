import TreeQuery.Query.Spelling

/-!
# Errors

A text that is no query is refused with one of five causes, each with the place where it was
noticed. Places count characters from the start of the text.

Queries and rule sets can ask for comparisons that make no sense whatever the tree holds. This is
noticed only when a node is compared, and then ends the search.

## Main definitions

* `ParseError` — why a text is no query.
* `MatchError` — why a node cannot be compared.
-/

namespace TreeQuery

/-! ### Errors of query text -/

/-- What a query could have gone on with. -/
inductive Expected where
  /-- The key of an attribute. -/
  | attributeKey
  /-- A comparison operator. -/
  | operator
  /-- A value. -/
  | value
  /-- An opening parenthesis. -/
  | openParen
  /-- A closing parenthesis. -/
  | closeParen
  /-- A closing bracket. -/
  | closeBracket
  /-- The name of a pseudo class. -/
  | pseudoClass
  /-- A selector. -/
  | selector
  /-- A further alternative, or nothing. -/
  | commaOrEnd
  deriving DecidableEq

/-- The name of an expectation in messages. -/
def Expected.name : Expected → String
  | attributeKey => "attribute key"
  | operator => "operator"
  | value => "value"
  | openParen => "`(`"
  | closeParen => "`)`"
  | closeBracket => "`]`"
  | pseudoClass => "pseudo class"
  | selector => "selector"
  | commaOrEnd => "`,` or end of query"

/-- The literals that run up to a closing mark. -/
inductive Delimited where
  /-- A quoted text. -/
  | string
  /-- A regular expression between slashes. -/
  | regexp
  deriving DecidableEq

/-- The name of a delimited literal in messages. -/
def Delimited.name : Delimited → String
  | string => "string"
  | regexp => "regexp"

/-- Why a text is no query. -/
inductive ParseError where
  /-- A character with which nothing can begin. -/
  | unexpectedChar (char : Char) (offset : Nat)
  /-- A token, or a word read as one, that does not fit. -/
  | unexpectedToken (found : String) (expected : Expected) (offset : Nat)
  /-- The end of the text where it has to go on. -/
  | unexpectedEnd (expected : Expected) (offset : Nat)
  /-- A literal whose closing mark is missing; the place is that of its opening mark. -/
  | unterminated (literal : Delimited) (offset : Nat)
  /-- A regular expression that is none. -/
  | invalidPattern (offset : Nat)
  deriving DecidableEq

namespace ParseError

/-- The place of an error. -/
def offset : ParseError → Nat
  | unexpectedChar _ offset => offset
  | unexpectedToken _ _ offset => offset
  | unexpectedEnd _ offset => offset
  | unterminated _ offset => offset
  | invalidPattern offset => offset

/-- The message of an error. -/
def message : ParseError → String
  | unexpectedChar char offset =>
    "unexpected character '" ++ char.toString ++ "' at offset " ++ toString offset
  | unexpectedToken found expected offset =>
    "unexpected token `" ++ found ++ "` at offset " ++ toString offset ++ ", expected " ++
      expected.name
  | unexpectedEnd expected offset =>
    "unexpected end of query at offset " ++ toString offset ++ ", expected " ++ expected.name
  | unterminated literal offset =>
    "unterminated " ++ literal.name ++ " starting at offset " ++ toString offset
  | invalidPattern offset => "invalid regexp at offset " ++ toString offset

end ParseError

/-! ### Errors of matching -/

/-- Why a rule cannot be applied. -/
inductive RuleFault where
  /-- Membership needs an array. -/
  | arrayExpected
  /-- An order needs a number. -/
  | numberExpected
  /-- A rule stands where a value has to. -/
  | nestedRule
  deriving DecidableEq

/-- The description of a fault in messages. -/
def RuleFault.description : RuleFault → String
  | arrayExpected => "expected an array"
  | numberExpected => "expected a number"
  | nestedRule => "nested rule inside a value"

/-- Why a node cannot be compared. -/
inductive MatchError where
  /-- An operator that the value does not admit. -/
  | invalidOperator (operator : Operator) (value : Value)
  /-- A rule that cannot be applied, under its key. -/
  | unsupportedRule (key : String) (fault : RuleFault)

/-- The message of an error. -/
def MatchError.message : MatchError → String
  | invalidOperator operator value =>
    "invalid operator " ++ operator.symbol ++ " for value " ++ value.toText
  | unsupportedRule key fault =>
    "unsupported rule value for '" ++ key ++ "': " ++ fault.description

end TreeQuery
