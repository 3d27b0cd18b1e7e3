import TreeQuery.Pattern.Property

/-!
# Written patterns

The structure of a pattern as it is written, before the flags in force are known: flags can be
switched inside a pattern and decide what a literal, a class or an anchor stands for.

## Main definitions

* `Expression` — a written pattern.
* `ClassSet`, `ClassItem` — what is written between brackets.
* `Expression.depth` — how deeply a pattern nests.
-/

namespace TreeQuery.Pattern

/-- The flags that can be switched inside a pattern. -/
inductive Flag where
  /-- Letters match without regard to case. -/
  | ignoreCase
  /-- Line anchors match at every line. -/
  | multiLine
  /-- The dot matches line breaks too. -/
  | dotNewline
  /-- Greedy and lazy repetition change places. -/
  | swapGreed
  /-- Classes and case range over all characters, not ASCII alone. -/
  | unicode
  /-- A carriage return ends a line too. -/
  | carriageReturn
  /-- White space and comments in the pattern are skipped. -/
  | verbose
  deriving DecidableEq

/-- Flags switched on and off at one place. -/
structure FlagChange where
  /-- The flags switched on. -/
  on : List Flag
  /-- The flags switched off. -/
  off : List Flag

namespace FlagChange

/-- The state of a flag behind a change, given its state before. -/
def apply (change : FlagChange) (flag : Flag) (before : Bool) : Bool :=
  if change.on.contains flag then true
  else if change.off.contains flag then false
  else before

end FlagChange

/-- The conditions on a position that a pattern can state. -/
inductive Anchor where
  /-- The start of the text or, line by line, of a line. -/
  | lineStart
  /-- The end of the text or, line by line, of a line. -/
  | lineEnd
  /-- The start of the text. -/
  | textStart
  /-- The end of the text. -/
  | textEnd
  /-- Between a word character and something else. -/
  | wordBoundary
  /-- Not at a word boundary. -/
  | noWordBoundary
  /-- At the first character of a word. -/
  | wordStart
  /-- Behind the last character of a word. -/
  | wordEnd
  /-- With no word character before. -/
  | wordStartHalf
  /-- With no word character behind. -/
  | wordEndHalf
  deriving DecidableEq

/-- A single unit of a pattern. -/
inductive Atom where
  /-- A character. `byte` marks those written with two hexadecimal digits, which stand for a
  byte where classes range over ASCII. -/
  | literal (char : Char) (byte : Bool)
  /-- Any character of a line. -/
  | dot
  /-- A condition on the position. -/
  | anchor (anchor : Anchor)
  /-- The characters with a property of the standard, or without it. -/
  | property (negated : Bool) (name : List Char)
  /-- The characters for which a property of the standard has a value, or has not. -/
  | propertyValue (negated : Bool) (name value : List Char)
  /-- The characters of a short class, or those outside. -/
  | short (negated : Bool) (shortClass : ShortClass)

/-- The operations between sets in brackets. -/
inductive SetOperation where
  /-- The members of both sets. -/
  | intersection
  /-- The members of the first set only. -/
  | difference
  /-- The members of exactly one set. -/
  | symmetricDifference
  deriving DecidableEq

mutual

/-- A member of a bracketed class. -/
inductive ClassItem where
  /-- A single unit, which has to stand for characters. -/
  | atom (atom : Atom)
  /-- The characters between two literals. -/
  | range (first : Char) (firstByte : Bool) (last : Char) (lastByte : Bool)
  /-- A named ASCII class, or its complement. -/
  | ascii (negated : Bool) (members : CharSet)
  /-- A class in brackets of its own. -/
  | nested (negated : Bool) (set : ClassSet)

/-- The content of a bracketed class: items in a row, or an operation between a content and
items in a row. -/
inductive ClassSet where
  /-- The union of items. -/
  | items (items : List ClassItem)
  /-- A set operation; operations group to the left. -/
  | operation (operation : SetOperation) (left : ClassSet) (right : List ClassItem)

end

/-- A pattern as written. -/
inductive Expression where
  /-- A single unit. -/
  | atom (atom : Atom)
  /-- A bracketed class. -/
  | bracketed (negated : Bool) (set : ClassSet)
  /-- A change of flags for the rest of the group. -/
  | switch (change : FlagChange)
  /-- Between `least` and `most` copies, without an upper bound if `most` is absent. A lazy
  repetition prefers few copies. -/
  | repetition (body : Expression) (least : Nat) (most : Option Nat) (lazy : Bool)
  /-- A group, with its number if it is one that captures what it matches, and with the flags
  that it switches for itself. -/
  | group (number : Option Nat) (change : FlagChange) (body : Expression)
  /-- Expressions in a row; a row of one is the expression itself. -/
  | sequence (items : List Expression)
  /-- Alternatives, at least two. -/
  | alternatives (items : List Expression)

namespace Expression

/-- Expressions in a row. -/
def ofItems : List Expression → Expression
  | [item] => item
  | items => sequence items

/-- One of several expressions. -/
def ofAlternatives : List Expression → Expression
  | [item] => item
  | items => alternatives items

/-- Whether a repetition mark may stand behind the expression. -/
def isRepeatable : Expression → Bool
  | switch _ => false
  | sequence [] => false
  | _ => true

end Expression

/-! ### Depth -/

mutual

/-- How deeply an item of a class nests. -/
def ClassItem.depth : ClassItem → Nat
  | .nested _ set => set.depth + 1
  | _ => 0

/-- How deeply the content of a class nests. -/
def ClassSet.depth : ClassSet → Nat
  | .items items => ClassItem.rowDepth items
  | .operation _ left right => max left.depth (ClassItem.rowDepth right) + 1

/-- How deeply items in a row nest; a row of several counts as one level itself. -/
def ClassItem.rowDepth : List ClassItem → Nat
  | [] => 0
  | item :: [] => item.depth
  | item :: next :: rest => max item.depth (ClassItem.listDepth (next :: rest)) + 1

/-- The largest depth among items. -/
def ClassItem.listDepth : List ClassItem → Nat
  | [] => 0
  | item :: rest => max item.depth (ClassItem.listDepth rest)

end

mutual

/-- How deeply an expression nests. -/
def Expression.depth : Expression → Nat
  | .atom _ => 0
  | .switch _ => 0
  | .bracketed _ set => set.depth + 1
  | .repetition body _ _ _ => body.depth + 1
  | .group _ _ body => body.depth + 1
  | .sequence items => if items.isEmpty then 0 else Expression.listDepth items + 1
  | .alternatives items => Expression.listDepth items + 1

/-- The largest depth among expressions. -/
def Expression.listDepth : List Expression → Nat
  | [] => 0
  | item :: rest => max item.depth (Expression.listDepth rest)

end

end TreeQuery.Pattern
