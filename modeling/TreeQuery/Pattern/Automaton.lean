import TreeQuery.Pattern.Construction
import TreeQuery.Pattern.Program

/-!
# Automata of programs

The construction of the two automata of a program, of which one reads a text forwards and the
other backwards. Each part of a program becomes some states with one state where they are left
for what follows. If that state has branches, connecting it takes memory; so the construction of
a part answers whether it has.

## Main definitions

* `CharSet.construct` — the states of a class of characters.
* `constructWords` — the states of a choice between texts.
* `Program.construct` — the states of a program.
* `Program.fits` — whether both automata of a program stay within the limit of memory.
-/

namespace TreeQuery.Pattern

open Construction

/-! ### Classes of characters -/

namespace CharSet

/-- The rows of all ranges of a set. -/
def rows (set : CharSet) : List (List ByteRange) :=
  set.flatMap fun range => byteRows range.1 range.2

/-- The state from which rows of at most `height` bytes lead to `target`. Rows in succession with
the same first range share a transition. -/
def constructTrie (target : Nat) :
    (height : Nat) → List (List ByteRange) → StateT Table Construction Nat
  | 0, _ => return target
  | height + 1, rows => do
    if rows.all List.isEmpty then return target
    let transitions ← (rows.splitBy fun a b => a.head? == b.head?).mapM fun group => do
      let next ← constructTrie target height (group.map List.tail)
      return match group.head?.bind List.head? with
        | some range => [range.first, range.last, next]
        | none => []
    share 10000 transitions.flatten (addTransitions transitions.length)

/-- The states of one row read backwards, which ends in the state `target`. Each byte has a state
of its own. -/
def constructRow (target : Nat) (row : List ByteRange) : StateT Table Construction Nat :=
  row.foldlM (fun next range => share 1000 [next, range.first, range.last] add) target

/-- The states of a class. **A class of ASCII needs a single state with transitions;** any other
class is read byte by byte, forwards with shared ends, and backwards with shared beginnings of
rows. -/
def construct (direction : Direction) (set : CharSet) : Construction Unit := do
  if set.isAscii then
    let _ ← add
    let _ ← addTransitions set.length
  else
    match direction with
    | .forward =>
      let target ← add
      let _ ← (constructTrie target 4 set.rows).run {}
    | .backward =>
      let _ ← add
      let target ← add
      let _ ← (set.rows.forM fun row => do
        let _ ← constructRow target row
        branch 1).run {}

end CharSet

/-! ### Choices between texts -/

/-- The parts of a list of words that the empty words in it divide. Empty words at the front
count as one. -/
def wordChunks (words : List (List Nat)) : List (List (List Nat)) :=
  match words with
  | [] :: rest => [] :: chunks (rest.dropWhile List.isEmpty)
  | words => chunks words
where
  /-- The parts that the empty words divide. -/
  chunks : List (List Nat) → List (List (List Nat))
    | [] => [[]]
    | [] :: rest => [] :: chunks rest
    | word :: rest =>
      match chunks rest with
      | chunk :: others => (word :: chunk) :: others
      | [] => [[word]]

/-- The states of a choice between words of at most `height` bytes. Between two words that end
where the choice begins, words with the same first byte share a transition; each such part is a
state, which the choice branches to. -/
def constructWords : (height : Nat) → List (List Nat) → Construction Unit
  | 0, _ => pure ()
  | height + 1, words => do
    if words.all List.isEmpty then return
    let chunks := wordChunks words
    for chunk in chunks do
      let firsts := (chunk.filterMap List.head?).eraseDups
      for first in firsts do
        constructWords height ((chunk.filter (·.head? == some first)).map List.tail)
      match firsts.length with
      | 0 => pure ()
      | 1 => take 1 0
      | count => let _ ← addTransitions count
    take 1 0
    branch ((chunks.filter (!·.isEmpty)).length + (chunks.length - 1))

/-! ### Rows and repetitions -/

/-- Parts in a row; nothing is a state too. -/
def constructRow (parts : List (Construction Bool)) : Construction Bool :=
  match parts with
  | [] => do take 1 0; return false
  | part :: rest => do follow (← part) rest
where
  /-- Parts behind one whose last state has branches or has not. -/
  follow (branches : Bool) : List (Construction Bool) → Construction Bool
    | [] => return branches
    | part :: rest => do
      let branches' ← part
      connect branches
      follow branches' rest

/-- A number of copies behind a part. -/
def constructCopies (part : Construction Bool) : (count : Nat) → Bool → Construction Bool
  | 0, branches => return branches
  | count + 1, branches => do
    let branches' ← part
    connect branches
    constructCopies part count branches'

/-- A number of copies in a row. -/
def constructExactly (part : Construction Bool) : (count : Nat) → Construction Bool
  | 0 => do take 1 0; return false
  | count + 1 => do constructCopies part count (← part)

/-- A number of copies each of which may be the last, or there may be none. -/
def constructOptional (part : Construction Bool) : (count : Nat) → Bool → Construction Bool
  | 0, branches => do connect branches; return false
  | count + 1, branches => do
    take 1 0
    let branches' ← part
    connect branches
    branch 2
    constructOptional part count branches'

/-- A repetition of a part. A part that consumes something is repeated by a loop through one
state; any other needs a state for the loop and one for leaving it out. -/
def constructRepetition (part : Construction Bool) (consumes : Bool) (least : Nat)
    (most : Option Nat) : Construction Bool :=
  match least, most with
  | 0, some 1 => do
    take 1 0
    let branches ← part
    take 1 0
    branch 2
    connect branches
    return false
  | 0, none => do
    if consumes then
      take 1 0
      let branches ← part
      branch 1
      connect branches
      return true
    else
      let branches ← part
      take 3 0
      connect branches
      branch 4
      return false
  | least + 1, none => do
    let before ← if least = 0 then pure false else constructExactly part least
    let branches ← part
    take 1 0
    connect before
    connect branches
    branch 1
    return true
  | least, some most => do
    if most ≤ least then constructExactly part least
    else
      let branches ← constructExactly part least
      take 1 0
      constructOptional part (most - least) branches

/-- A choice between parts. The branching state and the one behind the choice come after the
first two parts. -/
def constructChoice : List (Construction Bool) → Construction Bool
  | first :: second :: rest => do
    let branches ← first
    let branches' ← second
    take 2 0
    connect branches
    connect branches'
    branch 2
    for part in rest do
      connect (← part)
      branch 1
    return false
  | parts => constructRow parts

/-! ### Programs -/

mutual

/-- The states of a program. -/
def Program.construct (direction : Direction) : Program → Construction Bool
  | .empty => do take 1 0; return false
  | .literal text => do take (text.map fun c => encodedLength c.toNat).sum 0; return false
  | .chars set _ => do set.construct direction; return false
  | .look _ => do take 1 0; return false
  | .repetition body least most _ =>
    constructRepetition (body.construct direction) (body.leastLength.any (0 < ·)) least most
  | .capture _ body =>
    match direction with
    | .forward => do
      take 1 0
      let branches ← body.construct direction
      take 1 0
      connect branches
      return false
    | .backward => body.construct direction
  | .sequence items =>
    let parts := Program.constructAll direction items
    constructRow (match direction with
      | .forward => parts
      | .backward => parts.reverse)
  | .alternatives items =>
    match items.mapM Program.text? with
    | some texts => do
      let words := texts.map fun text =>
        let word := text.flatMap fun c => encodedBytes c.toNat
        match direction with
        | .forward => word
        | .backward => word.reverse
      take 1 0
      constructWords ((words.map List.length).foldl max 0 + 1) words
      return false
    | none => do constructChoice (Program.constructAll direction items)

/-- The states of each of several programs. -/
def Program.constructAll (direction : Direction) : List Program → List (Construction Bool)
  | [] => []
  | item :: rest => item.construct direction :: Program.constructAll direction rest

end

/-- The states of the whole automaton: what passes over the text before a match unless the
program is anchored, the program as a group of its own, and the state of a match. -/
def Program.constructWhole (direction : Direction) (program : Program) : Construction Unit := do
  let anchored := program.isAnchored direction
  if anchored then take 1 0
  else
    take 2 0
    let _ ← addTransitions 1
    branch 1
  let branches ← (Program.capture 0 program).construct direction
  take 1 0
  connect branches
  connect !anchored

/-- Whether a program is a choice between so many texts that no automaton is built for it: from
three thousand on, the texts are looked up as words. -/
def Program.isWordList : Program → Bool
  | .alternatives items => decide (3000 ≤ items.length) && items.all fun item => item.text?.isSome
  | _ => false

/-- Whether the automata of a program, if it needs any, stay within the limit of memory. -/
def Program.fits (program : Program) : Bool :=
  let fitsIn (direction : Direction) := ((program.constructWhole direction).run .none).isSome
  program.isWordList || (fitsIn .backward && fitsIn .forward)

end TreeQuery.Pattern
