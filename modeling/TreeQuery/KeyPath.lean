import TreeQuery.Number.Numeral

/-!
# Key paths

A key path such as `arguments.0.name` says how to walk from a node to one of its values. It is
written as segments separated by dots; empty segments between dots are dropped, so that **every
text is the spelling of some path**. A segment that reads as a 64-bit integer is an index, a
lone star stands for every element, and everything else is a name.

## Main definitions

* `KeyPath.ofChars` — the path that a text spells.
* `KeyPath.spelling` — the canonical spelling of a path.
-/

namespace TreeQuery

/-- One step of a key path. -/
inductive Segment where
  /-- A named accessor. -/
  | name (text : String)
  /-- A position; negative positions count from the end. -/
  | index (position : Int64)
  /-- Every element of a list. -/
  | wildcard
  deriving DecidableEq

namespace Segment

/-- The segment that a piece of text between two dots spells. -/
def ofChars (piece : List Char) : Segment :=
  if piece = ['*'] then wildcard
  else
    match readInt64? 10 piece with
    | some position => index position
    | none => name (String.ofList piece)

/-- The spelling of a segment. -/
def spelling : Segment → List Char
  | name text => text.toList
  | index position => integerSpelling position.toInt
  | wildcard => ['*']

end Segment

/-- The pieces of a text between its dots, empty ones included. -/
def splitAtDots : List Char → List (List Char)
  | [] => [[]]
  | c :: rest =>
    if c = '.' then [] :: splitAtDots rest
    else
      match splitAtDots rest with
      | piece :: pieces => (c :: piece) :: pieces
      | [] => [[c]]

/-- A path from a node to a value. -/
structure KeyPath where
  /-- The steps from the first to the last. -/
  segments : List Segment
  deriving DecidableEq

namespace KeyPath

/-- The path that a text spells. -/
def ofChars (text : List Char) : KeyPath :=
  ⟨((splitAtDots text).filter fun piece => !piece.isEmpty).map Segment.ofChars⟩

/-- The canonical spelling of a path: its segments with a dot between two of them. -/
def spelling (path : KeyPath) : List Char :=
  ['.'].intercalate (path.segments.map Segment.spelling)

end KeyPath

end TreeQuery
