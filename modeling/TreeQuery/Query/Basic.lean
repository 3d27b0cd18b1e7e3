import TreeQuery.KeyPath
import TreeQuery.Number
import TreeQuery.Pattern

/-!
# Queries

A query is a list of alternatives; its result is that of one after the other. An alternative is
a chain of selectors, each searching below what the one before it has found. A selector either
moves to other nodes and goes on with a further selector, or tests nodes: by their kind and
attributes, by what can be found below them, and by their place among the nodes found.

An attribute compares what is found with a value by an operator. Which operators a value admits
depends on its kind alone; asking for another is an error of the query and is noticed when it is
run.

## Main definitions

* `Operator` — the comparisons that an attribute can ask for.
* `Value` — what an attribute is compared with.
* `Selector` — one link of a chain.
* `Chain`, `Query` — chains and their union.
-/

namespace TreeQuery

/-! ### Operators -/

/-- A comparison between the value found in a tree and the value written in a query. -/
inductive Operator where
  /-- The two are equal. -/
  | equal
  /-- The two are not equal. -/
  | notEqual
  /-- The text found begins with the text written. -/
  | startsWith
  /-- The text found ends with the text written. -/
  | endsWith
  /-- The text found contains the text written. -/
  | contains
  /-- The number found is larger. -/
  | greater
  /-- The number found is larger or equal. -/
  | greaterOrEqual
  /-- The number found is smaller. -/
  | less
  /-- The number found is smaller or equal. -/
  | lessOrEqual
  /-- The pattern written matches the text found. -/
  | like
  /-- The pattern written does not match the text found. -/
  | unlike
  /-- What is found is equal to an element of the array written. -/
  | memberOf
  /-- What is found is equal to no element of the array written. -/
  | notMemberOf
  /-- Some element of what is found is equal to the value written. -/
  | includes
  /-- No element of what is found is equal to the value written. -/
  | notIncludes
  deriving DecidableEq

namespace Operator

/-- The name of the operator in token lists and messages. -/
def symbol : Operator → String
  | equal => "=="
  | notEqual => "!="
  | startsWith => "^="
  | endsWith => "$="
  | contains => "*="
  | greater => ">"
  | greaterOrEqual => ">="
  | less => "<"
  | lessOrEqual => "<="
  | like => "=~"
  | unlike => "!~"
  | memberOf => "in"
  | notMemberOf => "not_in"
  | includes => "includes"
  | notIncludes => "not_includes"

/-- How the operator is written between a key and a value: equality with one sign, and words
between blanks. -/
def spelling : Operator → List Char
  | equal => "=".toList
  | memberOf => " in ".toList
  | notMemberOf => " not in ".toList
  | includes => " includes ".toList
  | notIncludes => " not includes ".toList
  | op => op.symbol.toList

/-- The operators that every scalar value admits. -/
def ofScalar : List Operator := [equal, notEqual, includes, notIncludes]

/-- The operators that texts admit. -/
def ofText : List Operator :=
  [equal, notEqual, startsWith, endsWith, contains, includes, notIncludes]

/-- The operators that numbers admit. -/
def ofNumber : List Operator :=
  [equal, notEqual, greater, greaterOrEqual, less, lessOrEqual, includes, notIncludes]

/-- The operators that arrays admit. -/
def ofArray : List Operator := [equal, notEqual, memberOf, notMemberOf]

/-- The operators that patterns admit. -/
def ofPattern : List Operator := [like, unlike]

end Operator

/-! ### Selectors and chains -/

/-- How a selector moves from a node to the nodes that it tests. -/
inductive Combinator where
  /-- To the children. -/
  | child
  /-- To the next sibling. -/
  | nextSibling
  /-- To all siblings behind. -/
  | laterSibling
  deriving DecidableEq

/-- The tests on what can be found below a node. -/
inductive PseudoClass where
  /-- Something can be found. -/
  | has
  /-- Nothing can be found. -/
  | hasNot
  deriving DecidableEq

/-- Which of the nodes found are kept. -/
inductive Position where
  /-- The first one. -/
  | first
  /-- The last one. -/
  | last
  deriving DecidableEq

mutual

/-- A value written in a query. -/
inductive Value where
  /-- A quoted text. -/
  | text (value : String)
  /-- A quoted text with markers, which are filled in from the base node. -/
  | template (value : String)
  /-- A bare word, compared with the source of a node. -/
  | identifier (value : String)
  /-- A symbol. -/
  | symbol (value : String)
  /-- An integer. -/
  | integer (value : Int64)
  /-- A double. -/
  | float (value : Binary64)
  /-- A truth value. -/
  | boolean (value : Bool)
  /-- The absent value. -/
  | nil
  /-- A regular expression. -/
  | pattern (value : Pattern)
  /-- Several values. -/
  | array (items : List Value)
  /-- A selector that a node has to satisfy. -/
  | selector (value : Selector)

/-- A test of the slot that a key path leads to. -/
structure Attribute where
  /-- The path from the node tested. -/
  key : KeyPath
  /-- The comparison. -/
  operator : Operator
  /-- What the slot is compared with. -/
  value : Value

/-- A test for nodes of one kind that pass all of several attributes. -/
structure KindTest where
  /-- The kind. -/
  kind : String
  /-- The attributes. -/
  attributes : List Attribute

/-- A test on what a query finds from a node. -/
structure PseudoTest where
  /-- Whether the query has to find something or nothing. -/
  pseudoClass : PseudoClass
  /-- The alternatives of the query. -/
  query : List Chain

/-- One link of a chain. With a scope or a combinator it moves and goes on with `next`; without,
it tests nodes. -/
structure Selector where
  /-- The path to the slot where `next` starts. -/
  scope : Option KeyPath := none
  /-- The move to the nodes that `next` tests. -/
  combinator : Option Combinator := none
  /-- The selector behind a move. -/
  next : Option Selector := none
  /-- The test by kind. -/
  kindTest : Option KindTest := none
  /-- The test by what can be found below. -/
  pseudoTest : Option PseudoTest := none
  /-- Which of the nodes found are kept. -/
  position : Option Position := none

/-- Selectors in a row, at least one. -/
inductive Chain where
  /-- The last selector. -/
  | last (selector : Selector)
  /-- A selector and the chain that searches below what it finds. -/
  | link (selector : Selector) (rest : Chain)

end

/-- The alternatives of a query. -/
abbrev Query := List Chain

namespace Chain

/-- The first selector of a chain. -/
def head : Chain → Selector
  | last selector => selector
  | link selector _ => selector

/-- The selectors of a chain in order. -/
def selectors : Chain → List Selector
  | last selector => [selector]
  | link selector rest => selector :: rest.selectors

/-- The chain of a selector and those behind it. -/
def ofSelectors (first : Selector) : List Selector → Chain
  | [] => last first
  | next :: rest => link first (ofSelectors next rest)

/-- A chain with another one behind it. -/
def append : Chain → Chain → Chain
  | last selector, behind => link selector behind
  | link selector rest, behind => link selector (rest.append behind)

end Chain

namespace Value

/-- The operators that a value admits. -/
def operators : Value → List Operator
  | text _ => Operator.ofText
  | template _ => Operator.ofText
  | identifier _ => Operator.ofText
  | symbol _ => Operator.ofScalar
  | integer _ => Operator.ofNumber
  | float _ => Operator.ofNumber
  | boolean _ => Operator.ofScalar
  | nil => Operator.ofScalar
  | pattern _ => Operator.ofPattern
  | array _ => Operator.ofArray
  | selector _ => Operator.ofScalar

/-- The number that a value is. -/
def number? : Value → Option Number
  | integer value => some (.integer value)
  | float value => some (.float value)
  | _ => none

end Value

end TreeQuery
