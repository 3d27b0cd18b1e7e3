import TreeQuery.Pattern.Automaton
import TreeQuery.Pattern.Matching
import TreeQuery.Pattern.Reader
import TreeQuery.Pattern.Resolution

/-!
# Patterns

A pattern is a regular expression with its flags. It keeps the text from which it was read, by
which patterns are compared and written, together with the program that this text has: **a
`Pattern` exists only for a text that has one**.

The flags are letters: `i` ignores case, `m` lets the dot match line breaks, `x` skips white
space in the pattern. Other letters are kept and mean nothing.

## Main definitions

* `Pattern.ofSource?` — the pattern of a text and flags.
* `Pattern.isMatch` — whether the pattern matches some part of a text.
* `Pattern.spelling` — the pattern between slashes.
-/

namespace TreeQuery

namespace Pattern

/-- The flags with which a pattern starts. -/
def Flags.ofLetters (letters : List Char) : Flags where
  ignoreCase := letters.contains 'i'
  multiLine := false
  dotNewline := letters.contains 'm'
  unicode := true
  carriageReturn := false
  swapGreed := false

/-- The program of a text and flags, if it is a pattern: it has to be readable, to have a program,
and its automata have to fit into memory. -/
def compile? (source flags : String) : Option Program := do
  let letters := flags.toList
  let expression ← readPattern (letters.contains 'x') source.toList
  let (program, _) ← expression.toProgram (Flags.ofLetters letters)
  if program.fits then some program else none

end Pattern

/-- A regular expression with its flags. -/
structure Pattern where
  /-- The text of the expression. -/
  source : String
  /-- The flags, in the order given. -/
  flags : String
  /-- What the expression means. -/
  program : Pattern.Program
  /-- The program is that of the text and flags. -/
  compiled : Pattern.compile? source flags = some program

namespace Pattern

/-- The pattern of a text and flags, if it is one. -/
def ofSource? (source flags : String) : Option Pattern :=
  match h : compile? source flags with
  | some program => some ⟨source, flags, program, h⟩
  | none => none

/-- Patterns are equal when text and flags are. -/
instance : BEq Pattern := ⟨fun a b => a.source == b.source && a.flags == b.flags⟩

/-- A pattern is known by its source and its flags: the program is built from them. -/
theorem ext {a b : Pattern} (hs : a.source = b.source) (hf : a.flags = b.flags) : a = b := by
  obtain ⟨source, flags, program, h⟩ := a
  obtain ⟨source', flags', program', h'⟩ := b
  obtain rfl : source = source' := hs
  obtain rfl : flags = flags' := hf
  obtain rfl : program = program' := Option.some.inj (h.symm.trans h')
  rfl

/-- A pattern is built anew from its own source and flags. -/
theorem ofSource?_source_flags (p : Pattern) : ofSource? p.source p.flags = some p := by
  unfold ofSource?
  split
  · exact congrArg some (ext rfl rfl)
  · rename_i h
    rw [p.compiled] at h
    cases h

/-- Whether the pattern matches some part of a text. -/
def isMatch (p : Pattern) (text : String) : Bool := p.program.matches? text.toList

/-- The pattern between slashes, with a backslash before each slash of its text. -/
def spelling (p : Pattern) : List Char :=
  '/' :: (p.source.toList.flatMap fun c => if c = '/' then ['\\', '/'] else [c]) ++
    '/' :: p.flags.toList

end Pattern

end TreeQuery
