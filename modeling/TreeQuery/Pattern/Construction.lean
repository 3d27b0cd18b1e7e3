import Std.Data.HashMap
import TreeQuery.Pattern.ByteRow

/-!
# Memory for automata

Patterns are matched by automata whose memory is limited, and a pattern whose automaton would
take more is refused. To decide that, an automaton is built in thought: a `Construction` adds
states without keeping them, and **fails as soon as they take more than the limit**. All states
take the same memory; some hold a list besides, of transitions or of branches, which is counted
with them.

States with equal transitions are shared within a class of characters, as far as a `Table`
remembers them. A table has a fixed number of slots, and a state takes the place of one that was
in its slot before. So the number of states that a class takes hangs on the numbers that states
have, which are given in the order of construction.

## Main definitions

* `Memory`, `Memory.limit` — the memory taken so far, and the most that may be taken.
* `Construction` — constructions, with the steps `add`, `extend` and `connect`.
* `Construction.share` — a state that may be there already.
-/

namespace TreeQuery.Pattern

/-- The memory that an automaton takes. -/
structure Memory where
  /-- How many states there are. -/
  states : Nat
  /-- How many bytes the lists of the states take. -/
  lists : Nat

namespace Memory

/-- The bytes that a state takes without its list. -/
def perState : Nat := 32

/-- The bytes of a transition in the list of a state. -/
def perTransition : Nat := 8

/-- The bytes of a branch in the list of a state. -/
def perBranch : Nat := 4

/-- The most bytes that an automaton may take: ten mebibytes. -/
def limit : Nat := 10 * 1024 * 1024

/-- No state. -/
def none : Memory := ⟨0, 0⟩

/-- How many bytes are taken. -/
def bytes (memory : Memory) : Nat := memory.states * perState + memory.lists

end Memory

/-- A part of the construction of an automaton. -/
abbrev Construction := StateT Memory Option

namespace Construction

/-- Takes memory for some states and for lists. -/
def take (states lists : Nat) : Construction Unit := fun memory =>
  let taken : Memory := ⟨memory.states + states, memory.lists + lists⟩
  if taken.bytes ≤ Memory.limit then some ((), taken) else none

/-- Adds a state without a list, and answers its number. -/
def add : Construction Nat := do
  let number := (← get).states
  take 1 0
  return number

/-- Adds a state with a number of transitions, and answers its own number. -/
def addTransitions (count : Nat) : Construction Nat := do
  let number := (← get).states
  take 1 (count * Memory.perTransition)
  return number

/-- Adds branches to states that are there. -/
def branch (count : Nat) : Construction Unit := take 0 (count * Memory.perBranch)

/-- Connects the last state of a part with what follows; this is one more branch if that state
has branches. -/
def connect (branches : Bool) : Construction Unit := if branches then branch 1 else pure ()

/-! ### Shared states -/

/-- The states that can be shared: in a slot, what a state leads to and its number. -/
abbrev Table := Std.HashMap Nat (List Nat × Nat)

/-- The slot of a key in a table with a number of slots. The key is mixed number by number into
a word of 64 bits. -/
def slot (slots : Nat) (key : List Nat) : Nat :=
  let word := key.foldl
    (fun word number => (word ^^^ number.toUInt64) * 1099511628211) 14695981039346656037
  UInt64.toNat word % slots

/-- Answers the state that the table has for a key, or makes one and puts it into the table. -/
def share (slots : Nat) (key : List Nat) (make : Construction Nat) :
    StateT Table Construction Nat := do
  let place := slot slots key
  let table ← get
  let known := table[place]?.filter fun entry => entry.1 == key
  match known with
  | some (_, number) => return number
  | none =>
    let number ← make
    set (table.insert place (key, number))
    return number

end Construction

end TreeQuery.Pattern
