import TreeQuery.Query.Basic

/-!
# Writing queries

Every query has one spelling, in the notation in which queries are read. Equality is written with
one sign, texts between double quotes, and word operators between blanks; a blank separates the
selectors of a chain, and a comma the alternatives.

## Main definitions

* `quote` — a text between double quotes.
* `Value.spelling`, `Selector.spelling`, `Chain.spelling` — the parts of a query.
* `Query.toText` — a whole query.
-/

namespace TreeQuery

/-- A text between double quotes, with a backslash before each quote and backslash in it. -/
def quote (text : List Char) : List Char :=
  '"' :: (text.flatMap fun c => if c = '"' ∨ c = '\\' then ['\\', c] else [c]) ++ ['"']

/-- The sign of a combinator. -/
def Combinator.sign : Combinator → Char
  | child => '>'
  | nextSibling => '+'
  | laterSibling => '~'

/-- The name of a pseudo class. -/
def PseudoClass.name : PseudoClass → String
  | has => "has"
  | hasNot => "not_has"

/-- The name of a position. -/
def Position.name : Position → String
  | first => "first-child"
  | last => "last-child"

mutual

/-- The spelling of a value. -/
def Value.spelling : Value → List Char
  | .text value => quote value.toList
  | .template value => quote value.toList
  | .identifier value => value.toList
  | .symbol value => ':' :: value.toList
  | .integer value => integerSpelling value.toInt
  | .float value => value.literalText.toList
  | .boolean value => (if value then "true" else "false").toList
  | .nil => "nil".toList
  | .pattern value => value.spelling
  | .array items => '(' :: Value.rowSpelling items ++ [')']
  | .selector value => value.spelling

/-- The spelling of several values with a blank between two of them. -/
def Value.rowSpelling : List Value → List Char
  | [] => []
  | [value] => value.spelling
  | value :: next :: rest => value.spelling ++ ' ' :: Value.rowSpelling (next :: rest)

/-- The spelling of an attribute in its brackets. -/
def Attribute.spelling : Attribute → List Char
  | ⟨key, operator, value⟩ => '[' :: key.spelling ++ operator.spelling ++ value.spelling ++ [']']

/-- The spelling of several attributes. -/
def Attribute.rowSpelling : List Attribute → List Char
  | [] => []
  | a :: rest => a.spelling ++ Attribute.rowSpelling rest

/-- The spelling of a test by kind. -/
def KindTest.spelling : KindTest → List Char
  | ⟨kind, attributes⟩ => '.' :: kind.toList ++ Attribute.rowSpelling attributes

/-- The spelling of a test by what can be found below. -/
def PseudoTest.spelling : PseudoTest → List Char
  | ⟨pseudoClass, query⟩ =>
    ':' :: pseudoClass.name.toList ++ '(' :: Chain.listSpelling query ++ [')']

/-- The spelling of a selector: its moves, each with a blank behind, what it goes on with, and its
tests. -/
def Selector.spelling : Selector → List Char
  | ⟨scope, combinator, next, kindTest, pseudoTest, position⟩ =>
    (match scope with
      | some path => path.spelling ++ [' ']
      | none => []) ++
    (match combinator with
      | some combinator => [combinator.sign, ' ']
      | none => []) ++
    (match next with
      | some selector => selector.spelling
      | none => []) ++
    (match kindTest with
      | some test => test.spelling
      | none => []) ++
    (match pseudoTest with
      | some test => test.spelling
      | none => []) ++
    (match position with
      | some position => ':' :: position.name.toList
      | none => [])

/-- The spelling of a chain. -/
def Chain.spelling : Chain → List Char
  | .last selector => selector.spelling
  | .link selector rest => selector.spelling ++ ' ' :: rest.spelling

/-- The spelling of several alternatives. -/
def Chain.listSpelling : List Chain → List Char
  | [] => []
  | [chain] => chain.spelling
  | chain :: next :: rest => chain.spelling ++ ',' :: ' ' :: Chain.listSpelling (next :: rest)

end

/-- The text of a value. -/
def Value.toText (value : Value) : String := String.ofList value.spelling

/-- The text of a query. -/
def Query.toText (query : Query) : String := String.ofList (Chain.listSpelling query)

end TreeQuery
