import TreeQuery.Pattern.ByteRow
import TreeQuery.Pattern.Expression

/-!
# Programs

The program of a pattern is what the pattern means once all flags are resolved: texts, sets of
characters, conditions on a position, and the ways to combine them. Programs are kept in a
**simple form**: a row holds no row and no two texts in succession, a choice holds no choice, and
what several branches of a choice begin with stands before it. The functions `ofSet`, `inRow`,
`anyOf` and `repeated` build programs in this form from programs in this form.

## Main definitions

* `Program` — programs.
* `Program.inRow`, `Program.anyOf`, `Program.repeated` — combinations in simple form.
* `Program.leastLength`, `Program.greatestLength` — how many bytes a match takes.
* `Program.isAnchored` — whether matches begin or end where the text does.
-/

namespace TreeQuery.Pattern

/-- A condition on a position with all flags resolved. -/
inductive Look where
  /-- The start of the text. -/
  | textStart
  /-- The end of the text. -/
  | textEnd
  /-- The start of a line; with `carriageReturn`, one ends a line too. -/
  | lineStart (carriageReturn : Bool)
  /-- The end of a line; with `carriageReturn`, one ends a line too. -/
  | lineEnd (carriageReturn : Bool)
  /-- A condition on whether the neighbours are word characters, of ASCII or of any script. -/
  | word (unicode : Bool) (anchor : Anchor)
  deriving DecidableEq

/-- The meaning of a pattern. -/
inductive Program where
  /-- Nothing. -/
  | empty
  /-- The characters of a text, of which there is at least one. -/
  | literal (text : List Char)
  /-- One character of a set. A set is `bytewise` if it was written where classes range over
  ASCII, or if it has no member. -/
  | chars (set : CharSet) (bytewise : Bool)
  /-- No character, at a position that meets a condition. -/
  | look (look : Look)
  /-- Between `least` and `most` copies in a row; if `lazy`, few are preferred. -/
  | repetition (body : Program) (least : Nat) (most : Option Nat) (lazy : Bool)
  /-- A numbered group. -/
  | capture (number : Nat) (body : Program)
  /-- One behind the other. -/
  | sequence (items : List Program)
  /-- Any one of several. -/
  | alternatives (items : List Program)

/-! ### Lengths -/

mutual

/-- The least number of bytes that a match takes, if there can be a match. -/
def Program.leastLength : Program → Option Nat
  | .empty => some 0
  | .literal text => some (text.map fun c => encodedLength c.toNat).sum
  | .chars set _ => set.head?.map fun range => encodedLength range.1
  | .look _ => some 0
  | .repetition body least _ _ => body.leastLength.map (· * least)
  | .capture _ body => body.leastLength
  | .sequence items => Program.leastTotal items
  | .alternatives items => Program.leastOfAny items

/-- The least number of bytes that matches in a row take. -/
def Program.leastTotal : List Program → Option Nat
  | [] => some 0
  | item :: rest => do some ((← item.leastLength) + (← Program.leastTotal rest))

/-- The least number of bytes that a match of any one of several takes, if each has one. -/
def Program.leastOfAny : List Program → Option Nat
  | [] => none
  | [item] => item.leastLength
  | item :: rest => do some (min (← item.leastLength) (← Program.leastOfAny rest))

end

mutual

/-- The largest number of bytes that a match takes, if there is one. -/
def Program.greatestLength : Program → Option Nat
  | .empty => some 0
  | .literal text => some (text.map fun c => encodedLength c.toNat).sum
  | .chars set _ => set.getLast?.map fun range => encodedLength range.2
  | .look _ => some 0
  | .repetition body _ most _ => do some ((← body.greatestLength) * (← most))
  | .capture _ body => body.greatestLength
  | .sequence items => Program.greatestTotal items
  | .alternatives items => Program.greatestOfAny items

/-- The largest number of bytes that matches in a row take. -/
def Program.greatestTotal : List Program → Option Nat
  | [] => some 0
  | item :: rest => do some ((← item.greatestLength) + (← Program.greatestTotal rest))

/-- The largest number of bytes that a match of any one of several takes. -/
def Program.greatestOfAny : List Program → Option Nat
  | [] => none
  | [item] => item.greatestLength
  | item :: rest => do some (max (← item.greatestLength) (← Program.greatestOfAny rest))

end

/-! ### Anchoring -/

/-- The direction in which a text is read. -/
inductive Direction where
  /-- From the first character to the last. -/
  | forward
  /-- From the last character to the first. -/
  | backward
  deriving DecidableEq

/-- The end of the text at which reading begins. -/
def Direction.start : Direction → Look
  | forward => .textStart
  | backward => .textEnd

mutual

/-- Whether reading in a direction can find a match only where the text begins, as far as the
conditions at the border of the program tell. -/
def Program.isAnchored (direction : Direction) : Program → Bool
  | .look condition => condition == direction.start
  | .repetition body least _ _ => decide (0 < least) && body.isAnchored direction
  | .capture _ body => body.isAnchored direction
  | .sequence items => Program.rowIsAnchored direction items
  | .alternatives items => Program.allAnchored direction items
  | _ => false

/-- Whether programs in a row are anchored: some item is, and those that are read before it
match nothing but the empty text. -/
def Program.rowIsAnchored (direction : Direction) : List Program → Bool
  | [] => false
  | item :: rest =>
    match direction with
    | .forward =>
      item.isAnchored direction ||
        (item.greatestLength == some 0 && Program.rowIsAnchored direction rest)
    | .backward =>
      Program.rowIsAnchored direction rest ||
        (rest.all (·.greatestLength == some 0) && item.isAnchored direction)

/-- Whether each of several programs is anchored. -/
def Program.allAnchored (direction : Direction) : List Program → Bool
  | [] => true
  | item :: rest => item.isAnchored direction && Program.allAnchored direction rest

end

/-! ### Equality -/

mutual

/-- Whether two programs are the same, greed and the numbers of groups included. -/
def Program.same : Program → Program → Bool
  | .empty, .empty => true
  | .literal a, .literal b => a == b
  | .chars a bytewiseA, .chars b bytewiseB => a == b && bytewiseA == bytewiseB
  | .look a, .look b => a == b
  | .repetition a leastA mostA lazyA, .repetition b leastB mostB lazyB =>
    leastA == leastB && mostA == mostB && lazyA == lazyB && a.same b
  | .capture numberA a, .capture numberB b => numberA == numberB && a.same b
  | .sequence as, .sequence bs => Program.sameRow as bs
  | .alternatives as, .alternatives bs => Program.sameRow as bs
  | _, _ => false

/-- Whether two lists of programs are the same. -/
def Program.sameRow : List Program → List Program → Bool
  | [], [] => true
  | a :: as, b :: bs => a.same b && Program.sameRow as bs
  | _, _ => false

end

namespace Program

/-! ### Programs in simple form -/

/-- The program that matches nothing. -/
def fail : Program := .chars [] true

/-- One character of a set. A set of one character is a text. -/
def ofSet (set : CharSet) (bytewise : Bool) : Program :=
  match set with
  | [] => fail
  | [(first, last)] =>
    if first = last then .literal [Char.ofNat first] else .chars set bytewise
  | _ => .chars set bytewise

/-- Copies in a row. Of what matches the empty text alone, one copy says it all. -/
def repeated (body : Program) (least : Nat) (most : Option Nat) (lazy : Bool) : Program :=
  let (least, most) :=
    if body.greatestLength = some 0 then (min least 1, some (min (most.getD 1) 1))
    else (least, most)
  if least = 0 ∧ most = some 0 then .empty
  else if least = 1 ∧ most = some 1 then body
  else .repetition body least most lazy

/-- The items of a row. -/
def items : Program → List Program
  | empty => []
  | sequence items => items
  | program => [program]

/-- Joins the texts in succession in a row. -/
def joinTexts : List Program → List Program
  | [] => []
  | item :: rest =>
    match item, joinTexts rest with
    | .literal a, .literal b :: others => .literal (a ++ b) :: others
    | item, others => item :: others

/-- Programs in a row. -/
def inRow (programs : List Program) : Program :=
  match joinTexts (programs.flatMap items) with
  | [] => empty
  | [item] => item
  | row => sequence row

/-- The branches of a choice. -/
def branches : Program → List Program
  | alternatives branches => branches
  | program => [program]

/-- The text of a program that is one. -/
def text? : Program → Option (List Char)
  | literal text => some text
  | _ => none

/-- The character of a text that has only one. -/
def singleChar? : Program → Option Char
  | literal [c] => some c
  | _ => none

/-- The set of a program that is one. -/
def set? : Program → Option CharSet
  | chars set _ => some set
  | _ => none

/-- What all rows of a list begin with. -/
def commonStart : List (List Program) → List Program
  | [] => []
  | row :: rows =>
    rows.foldl (fun start other =>
      ((start.zip other).takeWhile fun pair => pair.1.same pair.2).map Prod.fst) row

/-- Any one of several branches, which begin with nothing in common. A choice between single
characters is a set. -/
def choice (branches : List Program) : Program :=
  match branches with
  | [] => fail
  | [branch] => branch
  | _ =>
    match branches.mapM singleChar? with
    | some cs => ofSet (CharSet.ofCodes (cs.map Char.toNat)) false
    | none =>
      match branches.mapM set? with
      | some sets => ofSet (CharSet.ofRanges sets.flatten) false
      | none => alternatives branches

/-- The items of a row of several. -/
def row? : Program → Option (List Program)
  | sequence items => some items
  | _ => none

/-- Any one of several programs. What all of them begin with is matched once. -/
def anyOf (programs : List Program) : Program :=
  let all := programs.flatMap branches
  match all with
  | _ :: _ :: _ =>
    match all.mapM row? with
    | some rows =>
      match commonStart rows with
      | [] => choice all
      | start =>
        let ends := rows.map fun row => inRow (row.drop start.length)
        inRow (start ++ [choice (ends.flatMap branches)])
    | none => choice all
  | _ => choice all

end Program

end TreeQuery.Pattern
