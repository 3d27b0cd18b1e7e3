import TreeQuery.Pattern.CaseFolding
import TreeQuery.Pattern.Program

/-!
# Resolution of flags

A written pattern becomes a program when the flags in force are known at each of its places.
**A pattern has no program if it asks for a character class that does not exist, or if it could
match inside the encoding of a character.**

## Main definitions

* `Flags` — the flags in force.
* `Atom.toProgram` — the program of a single unit.
* `Expression.toProgram` — the program of an expression.
-/

namespace TreeQuery.Pattern

/-- The flags in force, apart from those that only the reader heeds. -/
structure Flags where
  /-- Letters match without regard to case. -/
  ignoreCase : Bool
  /-- Line anchors match at every line. -/
  multiLine : Bool
  /-- The dot matches line breaks too. -/
  dotNewline : Bool
  /-- Classes and case range over all characters. -/
  unicode : Bool
  /-- A carriage return ends a line too. -/
  carriageReturn : Bool
  /-- Greedy and lazy repetition change places. -/
  swapGreed : Bool

namespace Flags

/-- The flags behind a change. -/
def change (flags : Flags) (by_ : FlagChange) : Flags where
  ignoreCase := by_.apply .ignoreCase flags.ignoreCase
  multiLine := by_.apply .multiLine flags.multiLine
  dotNewline := by_.apply .dotNewline flags.dotNewline
  unicode := by_.apply .unicode flags.unicode
  carriageReturn := by_.apply .carriageReturn flags.carriageReturn
  swapGreed := by_.apply .swapGreed flags.swapGreed

/-- A set closed under case if case is ignored. -/
def fold (flags : Flags) (set : CharSet) : CharSet :=
  if flags.ignoreCase then
    if flags.unicode then set.closeCase else set.closeAsciiCase
  else set

/-- The complement of a set if asked for. **Where classes range over ASCII, a class that
reaches beyond is refused**, since it would match single bytes. -/
def negate? (flags : Flags) (negated : Bool) (set : CharSet) : Option CharSet :=
  let set := if negated then set.complement else set
  if flags.unicode || set.isAscii then some set else none

/-- The code of a literal in a class. -/
def classCode? (flags : Flags) (c : Char) : Option Nat :=
  if flags.unicode || decide (c.toNat < 0x80) then some c.toNat else none

/-- The program of a class with given members. -/
def programOf (flags : Flags) (members : CharSet) : Program := .ofSet members !flags.unicode

end Flags

/-! ### Expressions as programs -/

/-- The program of an anchor. -/
def Anchor.toLook (flags : Flags) : Anchor → Look
  | lineStart => if flags.multiLine then .lineStart flags.carriageReturn else .textStart
  | lineEnd => if flags.multiLine then .lineEnd flags.carriageReturn else .textEnd
  | textStart => .textStart
  | textEnd => .textEnd
  | anchor => .word flags.unicode anchor

/-- The characters for which a unit stands in a class. -/
def Atom.members? (flags : Flags) : Atom → Option CharSet
  | literal c _ => (flags.classCode? c).map CharSet.singleton
  | dot => none
  | anchor _ => none
  | property negated name =>
    if flags.unicode then
      (findProperty? name).bind fun set => flags.negate? negated (flags.fold set)
    else none
  | propertyValue negated name value =>
    if flags.unicode then
      (findValue? name value).bind fun set => flags.negate? negated (flags.fold set)
    else none
  | short negated shortClass =>
    flags.negate? negated (if flags.unicode then shortClass.members else shortClass.asciiMembers)

/-- The program of a unit outside brackets. -/
def Atom.toProgram (flags : Flags) : Atom → Option Program
  | literal c byte =>
    if flags.unicode || decide (c.toNat < 0x80) then
      some (flags.programOf (flags.fold (CharSet.singleton c.toNat)))
    else if byte then none
    else some (.literal [c])
  | dot =>
    if !flags.unicode then none
    else if flags.dotNewline then some (flags.programOf CharSet.univ)
    else
      some (flags.programOf (CharSet.outside
        (if flags.carriageReturn then [(0x0A, 0x0A), (0x0D, 0x0D)] else [(0x0A, 0x0A)])))
  | anchor a => some (.look (a.toLook flags))
  | unit => (unit.members? flags).map flags.programOf

mutual

/-- The members of an item of a class. -/
def ClassItem.members? (flags : Flags) : ClassItem → Option CharSet
  | .atom unit => unit.members? flags
  | .range first _ last _ => do
    some [(← flags.classCode? first, ← flags.classCode? last)]
  | .ascii negated members => flags.negate? negated (flags.fold members)
  | .nested negated set => (ClassSet.members? flags set).bind fun members =>
      flags.negate? negated (flags.fold members)

/-- The members of items in a row. -/
def ClassItem.rowMembers? (flags : Flags) : List ClassItem → Option CharSet
  | [] => some []
  | item :: rest => do
    some (CharSet.union (← item.members? flags) (← ClassItem.rowMembers? flags rest))

/-- The members of the content of a class. -/
def ClassSet.members? (flags : Flags) : ClassSet → Option CharSet
  | .items items => ClassItem.rowMembers? flags items
  | .operation operation left right => do
    let left := flags.fold (← ClassSet.members? flags left)
    let right := flags.fold (← ClassItem.rowMembers? flags right)
    some (match operation with
      | .intersection => left.intersection right
      | .difference => left.difference right
      | .symmetricDifference => left.symmetricDifference right)

end

mutual

/-- The program of an expression, and the flags in force behind it. -/
def Expression.toProgram (flags : Flags) : Expression → Option (Program × Flags)
  | .atom unit => (unit.toProgram flags).map fun program => (program, flags)
  | .bracketed negated set => do
    let members ← set.members? flags
    let members ← flags.negate? negated (flags.fold members)
    some (flags.programOf members, flags)
  | .switch change => some (.empty, flags.change change)
  | .repetition body least most lazy => do
    let (program, flags) ← body.toProgram flags
    some (program.repeated least most (lazy != flags.swapGreed), flags)
  | .group number change body => do
    let (program, _) ← body.toProgram (flags.change change)
    some (match number with
      | some number => .capture number program
      | none => program, flags)
  | .sequence items => do
    let (programs, flags) ← Expression.toPrograms flags items
    some (.inRow programs, flags)
  | .alternatives items => do
    let (programs, flags) ← Expression.toPrograms flags items
    some (.anyOf programs, flags)

/-- The programs of several expressions, each under the flags left by those before it. -/
def Expression.toPrograms (flags : Flags) : List Expression → Option (List Program × Flags)
  | [] => some ([], flags)
  | item :: rest => do
    let (program, flags) ← item.toProgram flags
    let (programs, flags) ← Expression.toPrograms flags rest
    some (program :: programs, flags)

end

end TreeQuery.Pattern
