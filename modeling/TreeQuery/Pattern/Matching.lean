import TreeQuery.Pattern.Program

/-!
# Matching

Whether a pattern matches somewhere in a text is decided by following **all positions at once**.
A set of positions is a number whose bits stand for the places between the characters, the one
before the first character first. A program turns the set of positions where it may start into
the set of those where it may end; repetition is a least fixed point, reached after at most one
step per position.

## Main definitions

* `Look.mask`, `charMask` — where in a text a condition holds, or a character of a set begins.
* `Program.prepare` — a program with the masks of one text in place of sets and conditions.
* `Plan.ends` — where a prepared program may end.
* `Program.matches?` — whether a program matches in a text.
-/

namespace TreeQuery.Pattern

/-! ### Masks -/

/-- The positions of a text at which a character of the set begins. -/
def charMask (set : CharSet) : List Char → Nat
  | [] => 0
  | c :: rest => 2 * charMask set rest + (if set.contains c.toNat then 1 else 0)

namespace Look

/-- Whether a neighbour is a word character; the ends of the text are none. -/
def isWordChar (unicode : Bool) (neighbour : Option Char) : Bool :=
  neighbour.any fun c => (if unicode then wordChars else asciiWordChars).contains c.toNat

/-- Whether the condition holds between two neighbours, absent at the ends of the text. -/
def holds (before behind : Option Char) : Look → Bool
  | textStart => before.isNone
  | textEnd => behind.isNone
  | lineStart false => before.all (· == '\n')
  | lineStart true => before.all fun c => c == '\n' || (c == '\r' && behind != some '\n')
  | lineEnd false => behind.all (· == '\n')
  | lineEnd true => behind.all fun c => c == '\r' || (c == '\n' && before != some '\r')
  | word unicode anchor =>
    let left := isWordChar unicode before
    let right := isWordChar unicode behind
    match anchor with
    | .wordBoundary => left != right
    | .noWordBoundary => left == right
    | .wordStart => !left && right
    | .wordEnd => left && !right
    | .wordStartHalf => !left
    | .wordEndHalf => !right
    | _ => false

/-- The positions of a text behind `before` at which the condition holds. -/
def mask (look : Look) (before : Option Char) : List Char → Nat
  | [] => if look.holds before none then 1 else 0
  | c :: rest => 2 * mask look (some c) rest + (if look.holds before (some c) then 1 else 0)

end Look

/-! ### Prepared programs -/

/-- A program prepared for one text. -/
inductive Plan where
  /-- Moves one position on where the mask is set. -/
  | advance (mask : Nat)
  /-- Stays where the mask is set. -/
  | stay (mask : Nat)
  /-- One behind the other. -/
  | sequence (items : List Plan)
  /-- Any one of several. -/
  | alternatives (items : List Plan)
  /-- Between `least` and `most` copies in a row. -/
  | repetition (body : Plan) (least : Nat) (most : Option Nat)

mutual

/-- The plan of a program for a text. -/
def Program.prepare (text : List Char) : Program → Plan
  | .empty => .sequence []
  | .literal word => .sequence (word.map fun c => .advance (charMask [(c.toNat, c.toNat)] text))
  | .chars set _ => .advance (charMask set text)
  | .look condition => .stay (condition.mask none text)
  | .repetition body least most _ => .repetition (body.prepare text) least most
  | .capture _ body => body.prepare text
  | .sequence items => .sequence (Program.prepareAll text items)
  | .alternatives items => .alternatives (Program.prepareAll text items)

/-- The plans of several programs for a text. -/
def Program.prepareAll (text : List Char) : List Program → List Plan
  | [] => []
  | item :: rest => item.prepare text :: Program.prepareAll text rest

end

/-- Applies a step up to `count` times, and fewer if it comes to rest. -/
def iterate (step : Nat → Nat) : (count : Nat) → Nat → Nat
  | 0, starts => starts
  | count + 1, starts =>
    let next := step starts
    if next = starts then starts else iterate step count next

mutual

/-- The positions where a plan may end if it may start at `starts`, in a text with `size`
positions. -/
def Plan.ends (size : Nat) : Plan → Nat → Nat
  | .advance mask, starts => (starts &&& mask) <<< 1
  | .stay mask, starts => starts &&& mask
  | .sequence items, starts => Plan.endsInRow size items starts
  | .alternatives items, starts => Plan.endsOfAny size items starts
  | .repetition body least most, starts =>
    let required := iterate (Plan.ends size body) least starts
    iterate (fun reached => reached ||| Plan.ends size body reached)
      (match most with
        | some most => most - least
        | none => size)
      required

/-- Where several plans in a row may end. -/
def Plan.endsInRow (size : Nat) : List Plan → Nat → Nat
  | [], starts => starts
  | item :: rest, starts => Plan.endsInRow size rest (Plan.ends size item starts)

/-- Where any one of several plans may end. -/
def Plan.endsOfAny (size : Nat) : List Plan → Nat → Nat
  | [], _ => 0
  | item :: rest, starts => Plan.ends size item starts ||| Plan.endsOfAny size rest starts

end

/-- Whether a program matches some part of a text. -/
def Program.matches? (program : Program) (text : List Char) : Bool :=
  let size := text.length + 1
  (program.prepare text).ends size (Nat.pow 2 size - 1) != 0

end TreeQuery.Pattern
