import TreeQuery.Number.Numeral
import TreeQuery.Pattern.Expression
import TreeQuery.Text.Character

/-!
# Reading patterns

A pattern is read from left to right into an `Expression`, or refused. What is read next hangs
on the `Source`: the text left, whether blanks and comments are skipped, how many groups have
been opened so far, and the group names taken, each of which may be given once.

## Main definitions

* `Source` — the state of the reader.
* `readEscape`, `readClass`, `readGroup` — the parts with a notation of their own.
* `readPattern` — the reader of a whole pattern.
-/

namespace TreeQuery.Pattern

/-! ### The source -/

/-- The state of the reader. -/
structure Source where
  /-- The text left to read. -/
  rest : List Char
  /-- Whether blanks and comments are skipped. -/
  verbose : Bool
  /-- How many numbered groups have been opened so far. -/
  groups : Nat
  /-- The group names given so far. -/
  names : List (List Char)

mutual

/-- The text behind blanks and comments at its front. -/
def dropSpace : List Char → List Char
  | [] => []
  | c :: rest =>
    if Text.isBlank c then dropSpace rest else if c = '#' then dropComment rest else c :: rest

/-- The text behind the rest of a comment, and behind what is skipped there. -/
def dropComment : List Char → List Char
  | [] => []
  | c :: rest => if c = '\n' then dropSpace rest else dropComment rest

end

namespace Source

/-- The source at another place. -/
def moveTo (source : Source) (rest : List Char) : Source := { source with rest }

/-- The source behind what may be skipped at its front. -/
def skip (source : Source) : Source :=
  if source.verbose then source.moveTo (dropSpace source.rest) else source

/-- The source at another place, behind what may be skipped there. -/
def skipTo (source : Source) (rest : List Char) : Source := (source.moveTo rest).skip

/-- What follows the current character of a class, as far as the reader looks ahead: behind
blanks and the opening of one comment. -/
def peekInClass (source : Source) (rest : List Char) : Option Char :=
  if source.verbose then
    match rest.dropWhile Text.isBlank with
    | '#' :: more => (more.dropWhile Text.isBlank).head?
    | other => other.head?
  else rest.head?

end Source

/-! ### Escapes -/

/-- Whether a character has a meaning of its own in patterns. -/
def isMeta (c : Char) : Bool := "\\.+*?()|[]\x7b\x7d^$#&-~".toList.contains c

/-- Whether a backslash may stand before a character that needs none: any ASCII character but
letters, digits and angle brackets. -/
def isEscapable (c : Char) : Bool :=
  isMeta c || (decide (c.toNat < 0x80) && !c.isAlphanum && c != '<' && c != '>')

/-- The character of a code point in hexadecimal, if there is one. -/
def hexChar? (digits : List Char) : Option Char :=
  match readNat? 16 digits with
  | some code => if h : code.isValidChar then some (Char.ofNatAux code h) else none
  | none => none

/-- Reads `count` hexadecimal digits. Blanks between them are skipped like elsewhere. -/
def readHexDigits : (count : Nat) → Source → Option (List Char × Source)
  | 0, source => some ([], source)
  | count + 1, source =>
    match source.rest with
    | c :: rest =>
      if (digitValue? c).any (· < 16) then
        (readHexDigits count (source.skipTo rest)).map fun (digits, source) => (c :: digits, source)
      else none
    | [] => none

/-- Reads hexadecimal digits up to a closing brace. -/
def readBracedHex : (fuel : Nat) → Source → Option (List Char × Source)
  | 0, _ => none
  | fuel + 1, source =>
    match source.rest with
    | '}' :: rest => some ([], source.skipTo rest)
    | c :: rest =>
      if (digitValue? c).any (· < 16) then
        (readBracedHex fuel (source.skipTo rest)).map fun (digits, source) => (c :: digits, source)
      else none
    | [] => none

/-- Reads the code point of a hexadecimal escape behind its letter. -/
def readHexEscape (width : Nat) (source : Source) : Option (Atom × Source) :=
  let source := source.skip
  match source.rest with
  | '{' :: rest => do
    let (digits, source) ← readBracedHex source.rest.length (source.skipTo rest)
    let c ← hexChar? digits
    some (.literal c false, source)
  | _ => do
    let (digits, source) ← readHexDigits width source
    let c ← hexChar? digits
    some (.literal c (width == 2), source)

/-- Reads the name of a property up to a closing brace. -/
def readBracedName : (fuel : Nat) → Source → Option (List Char × Source)
  | 0, _ => none
  | fuel + 1, source =>
    match source.rest with
    | '}' :: rest => some ([], source.moveTo rest)
    | c :: rest =>
      (readBracedName fuel (source.skipTo rest)).map fun (name, source) => (c :: name, source)
    | [] => none

/-- Splits a text at the first occurrence of a mark of one or two characters. -/
def splitAtMark (mark : List Char) : List Char → Option (List Char × List Char)
  | [] => none
  | c :: rest =>
    if mark.isPrefixOf (c :: rest) then some ([], (c :: rest).drop mark.length)
    else (splitAtMark mark rest).map fun (before, behind) => (c :: before, behind)

/-- The property that a text between braces names. An inequality negates it. -/
def bracedProperty (negated : Bool) (text : List Char) : Atom :=
  match splitAtMark ['!', '='] text with
  | some (name, value) => .propertyValue (!negated) name value
  | none =>
    match splitAtMark [':'] text <|> splitAtMark ['='] text with
    | some (name, value) => .propertyValue negated name value
    | none => .property negated text

/-- Reads the property of an escape behind its letter. -/
def readProperty (negated : Bool) (source : Source) : Option (Atom × Source) :=
  let source := source.skip
  match source.rest with
  | '{' :: rest => do
    let (name, source) ← readBracedName source.rest.length (source.skipTo rest)
    some (bracedProperty negated name, source)
  | c :: rest => if c = '\\' then none else some (.property negated [c], source.skipTo rest)
  | [] => none

/-- Reads the letters of a word-boundary name. -/
def readBoundaryName : (fuel : Nat) → Source → List Char × Source
  | 0, source => ([], source)
  | fuel + 1, source =>
    match source.rest with
    | c :: rest =>
      if c.isAlpha || c == '-' then
        let (name, source) := readBoundaryName fuel (source.skipTo rest)
        (c :: name, source)
      else ([], source)
    | [] => ([], source)

/-- Reads what follows the escape of a word boundary: a name in braces makes it a boundary of
one side. Braces that cannot hold a name are left to be read as a repetition. -/
def readBoundary (source : Source) : Option (Atom × Source) :=
  match source.rest with
  | '{' :: rest =>
    let inner := source.skipTo rest
    match inner.rest with
    | [] => none
    | c :: _ =>
      if c.isAlpha || c == '-' then
        let (name, inner) := readBoundaryName inner.rest.length inner
        match inner.rest with
        | '}' :: behind =>
          let found (anchor : Anchor) := some (Atom.anchor anchor, source.moveTo behind)
          match String.ofList name with
          | "start" => found .wordStart
          | "end" => found .wordEnd
          | "start-half" => found .wordStartHalf
          | "end-half" => found .wordEndHalf
          | _ => none
        | _ => none
      else some (.anchor .wordBoundary, source)
  | _ => some (.anchor .wordBoundary, source)

/-- Reads an escape behind its backslash. -/
def readEscape (source : Source) : Option (Atom × Source) :=
  match source.rest with
  | [] => none
  | c :: rest =>
    let source := source.moveTo rest
    let literal (char : Char) := some (Atom.literal char false, source)
    match c with
    | 'x' => readHexEscape 2 source
    | 'u' => readHexEscape 4 source
    | 'U' => readHexEscape 8 source
    | 'p' => readProperty false source
    | 'P' => readProperty true source
    | 'd' => some (.short false .digit, source)
    | 'D' => some (.short true .digit, source)
    | 's' => some (.short false .space, source)
    | 'S' => some (.short true .space, source)
    | 'w' => some (.short false .word, source)
    | 'W' => some (.short true .word, source)
    | 'a' => literal '\x07'
    | 'f' => literal '\x0c'
    | 't' => literal '\t'
    | 'n' => literal '\n'
    | 'r' => literal '\r'
    | 'v' => literal '\x0b'
    | 'A' => some (.anchor .textStart, source)
    | 'z' => some (.anchor .textEnd, source)
    | 'b' => readBoundary source
    | 'B' => some (.anchor .noWordBoundary, source)
    | '<' => some (.anchor .wordStart, source)
    | '>' => some (.anchor .wordEnd, source)
    | _ => if isEscapable c then literal c else none

/-! ### Classes -/

/-- Reads a named ASCII class behind its opening bracket. -/
def readAsciiClass (rest : List Char) : Option (ClassItem × List Char) :=
  match rest with
  | ':' :: text =>
    let (negated, text) :=
      match text with
      | '^' :: more => (true, more)
      | _ => (false, text)
    match splitAtMark [':', ']'] text with
    | some (name, behind) =>
      if name.contains ':' then none
      else (findAsciiClass? (String.ofList name)).map fun members =>
        (.ascii negated members, behind)
    | none => none
  | _ => none

/-- Reads a single unit of a class. -/
def readClassAtom (source : Source) : Option (Atom × Source) :=
  match source.rest with
  | [] => none
  | '\\' :: rest => readEscape (source.moveTo rest)
  | c :: rest => some (.literal c false, source.moveTo rest)

/-- Whether a unit stands for characters and not for a place. -/
def Atom.isClass : Atom → Bool
  | anchor _ => false
  | dot => false
  | _ => true

/-- Reads a unit of a class, or the range that begins with it. -/
def readClassRange (source : Source) : Option (ClassItem × Source) := do
  let (first, source) ← readClassAtom source
  let source := source.skip
  let single : Option (ClassItem × Source) :=
    if first.isClass then some (.atom first, source) else none
  match source.rest with
  | [] => none
  | '-' :: rest =>
    if source.peekInClass rest = some ']' ∨ source.peekInClass rest = some '-' then single
    else
      let (last, source) ← readClassAtom (source.skipTo rest)
      match first, last with
      | .literal a byteA, .literal b byteB =>
        if a ≤ b then some (.range a byteA b byteB, source) else none
      | _, _ => none
  | _ => single

/-- Reads the hyphens at the front of a class, which stand for themselves. -/
def readHyphens : (fuel : Nat) → Source → List ClassItem × Source
  | 0, source => ([], source)
  | fuel + 1, source =>
    match source.rest with
    | '-' :: rest =>
      let (items, source) := readHyphens fuel (source.skipTo rest)
      (.atom (.literal '-' false) :: items, source)
    | _ => ([], source)

/-- Reads the opening of a class behind its bracket: the mark of a complement, and the hyphens
or the closing bracket that stand for themselves at the front. -/
def readClassOpening (source : Source) : Bool × List ClassItem × Source :=
  let source := source.skip
  let (negated, source) :=
    match source.rest with
    | '^' :: rest => (true, source.skipTo rest)
    | _ => (false, source)
  let (hyphens, source) := readHyphens source.rest.length source
  match hyphens, source.rest with
  | [], ']' :: rest => (negated, [.atom (.literal ']' false)], source.skipTo rest)
  | _, _ => (negated, hyphens, source)

/-- The content of a class from the operation begun before, if any, and the items behind it, of
which the last comes first. -/
def closeOperand (pending : Option (SetOperation × ClassSet)) (items : List ClassItem) : ClassSet :=
  match pending with
  | some (operation, left) => .operation operation left items.reverse
  | none => .items items.reverse

mutual

/-- Reads a class behind its opening bracket. -/
def readClass : (fuel : Nat) → Source → Option (Bool × ClassSet × Source)
  | 0, _ => none
  | fuel + 1, source =>
    let (negated, items, source) := readClassOpening source
    (readClassBody fuel none items.reverse source).map fun (set, source) => (negated, set, source)

/-- Reads the content of a class up to and with its closing bracket. -/
def readClassBody : (fuel : Nat) → Option (SetOperation × ClassSet) → List ClassItem → Source →
    Option (ClassSet × Source)
  | 0, _, _, _ => none
  | fuel + 1, pending, items, source =>
    let source := source.skip
    let operand (operation : SetOperation) (rest : List Char) :=
      readClassBody fuel (some (operation, closeOperand pending items)) [] (source.moveTo rest)
    match source.rest with
    | ']' :: rest => some (closeOperand pending items, source.moveTo rest)
    | '&' :: '&' :: rest => operand .intersection rest
    | '-' :: '-' :: rest => operand .difference rest
    | '~' :: '~' :: rest => operand .symmetricDifference rest
    | '[' :: rest =>
      match readAsciiClass rest with
      | some (item, behind) => readClassBody fuel pending (item :: items) (source.moveTo behind)
      | none =>
        match readClass fuel (source.moveTo rest) with
        | some (negated, set, source) =>
          readClassBody fuel pending (.nested negated set :: items) source
        | none => none
    | _ =>
      match readClassRange source with
      | some (item, source) => readClassBody fuel pending (item :: items) source
      | none => none

end

/-! ### Repetitions -/

/-- Reads a number of copies, at most 32 bits wide, with blanks around it. -/
def readCount (source : Source) : Option (Nat × Source) :=
  let rec digits : (fuel : Nat) → Source → List Char × Source
    | 0, source => ([], source)
    | fuel + 1, source =>
      match source.rest with
      | c :: rest =>
        if c.isDigit then
          let (more, source) := digits fuel (source.skipTo rest)
          (c :: more, source)
        else ([], source)
      | [] => ([], source)
  let start := source.moveTo (source.rest.dropWhile Text.isBlank)
  let (text, source) := digits start.rest.length start
  let source :=
    if source.rest.head?.any Text.isBlank then source.skipTo (source.rest.dropWhile Text.isBlank)
    else source
  match readNat? 10 text with
  | some n => if n < 0x100000000 then some (n, source) else none
  | none => none

/-- How often a repetition repeats. -/
structure Bounds where
  /-- The least number of copies. -/
  least : Nat
  /-- The largest number of copies, if there is one. -/
  most : Option Nat
  /-- Few copies are preferred. -/
  lazy : Bool

/-- Reads the mark of a lazy repetition, if it is there. -/
def readLazy (least : Nat) (most : Option Nat) (source : Source) : Bounds × Source :=
  match source.rest with
  | '?' :: rest => (⟨least, most, true⟩, source.moveTo rest)
  | _ => (⟨least, most, false⟩, source)

/-- Reads the bounds of a counted repetition behind the opening brace. -/
def readBounds (source : Source) : Option (Bounds × Source) := do
  let (least, source) ← readCount source.skip
  let (most, source) ←
    match source.rest with
    | ',' :: rest =>
      let source := source.skipTo rest
      match source.rest with
      | '}' :: _ => some (none, source)
      | _ => (readCount source).map fun (n, source) => (some n, source)
    | _ => some (some least, source)
  match source.rest with
  | '}' :: rest =>
    if most.all (least ≤ ·) then some (readLazy least most (source.skipTo rest)) else none
  | _ => none

/-! ### Groups -/

/-- The flag of a letter. -/
def flagOf? : Char → Option Flag
  | 'i' => some .ignoreCase
  | 'm' => some .multiLine
  | 's' => some .dotNewline
  | 'U' => some .swapGreed
  | 'u' => some .unicode
  | 'R' => some .carriageReturn
  | 'x' => some .verbose
  | _ => none

/-- Reads flags up to the colon or parenthesis behind them, which it leaves. No flag may be
given twice, nor the minus, and something has to follow the minus. -/
def readFlags (change : FlagChange) (negated : Bool) (afterMinus : Bool) :
    List Char → Option (FlagChange × List Char)
  | [] => none
  | c :: rest =>
    if c = ':' ∨ c = ')' then if afterMinus then none else some (change, c :: rest)
    else if c = '-' then if negated then none else readFlags change true true rest
    else
      match flagOf? c with
      | none => none
      | some flag =>
        if change.on.contains flag || change.off.contains flag then none
        else if negated then readFlags { change with off := flag :: change.off } true false rest
        else readFlags { change with on := flag :: change.on } false false rest

/-- Whether a character may stand in a group name. -/
def isGroupNameChar (first : Bool) (c : Char) : Bool :=
  if first then c == '_' || Text.isAlphabetic c
  else c == '_' || c == '.' || c == '[' || c == ']' || Text.isAlphanumeric c

/-- Reads a group name up to and with the angle bracket behind it; it has to be new. -/
def readGroupName (source : Source) : Option Source :=
  match splitAtMark ['>'] source.rest with
  | some (name, behind) =>
    match name with
    | [] => none
    | first :: others =>
      if isGroupNameChar true first && others.all (isGroupNameChar false) &&
          !source.names.contains name then
        some { source with rest := behind, names := name :: source.names }
      else none
  | none => none

/-- What an opening parenthesis begins. -/
inductive Opening where
  /-- A change of flags, complete with its closing parenthesis. -/
  | change (change : FlagChange)
  /-- A group with a body, and its number if it captures. -/
  | group (number : Option Nat) (change : FlagChange)

/-- Opens a group with the next number. -/
def Source.openGroup (source : Source) (change : FlagChange) : Opening × Source :=
  let number := source.groups + 1
  (.group (some number) change, { source with groups := number })

/-- Reads what follows an opening parenthesis, up to the body of a group. Look-around is
refused. -/
def readOpening (source : Source) : Option (Opening × Source) :=
  let source := source.skip
  let plain : FlagChange := ⟨[], []⟩
  let named (rest : List Char) :=
    (readGroupName (source.moveTo rest)).map fun source => source.openGroup plain
  match source.rest with
  | '?' :: '=' :: _ => none
  | '?' :: '!' :: _ => none
  | '?' :: '<' :: '=' :: _ => none
  | '?' :: '<' :: '!' :: _ => none
  | '?' :: 'P' :: '<' :: rest => named rest
  | '?' :: '<' :: rest => named rest
  | '?' :: rest =>
    match readFlags plain false false rest with
    | some (change, ':' :: behind) => some (.group none change, source.moveTo behind)
    | some (change, ')' :: behind) =>
      if change.on.isEmpty && change.off.isEmpty then none
      else some (.change change, source.moveTo behind)
    | _ => none
  | _ => some (source.openGroup plain)

/-! ### Whole patterns -/

/-- Puts a repetition around the last of the items read, of which the last comes first. -/
def repeatLast (items : List Expression) (bounds : Bounds) : Option (List Expression) :=
  match items with
  | last :: before =>
    if last.isRepeatable then
      some (.repetition last bounds.least bounds.most bounds.lazy :: before)
    else none
  | [] => none

/-- The bounds of the repetition that a mark stands for. -/
def boundsOfMark? : Char → Option (Nat × Option Nat)
  | '?' => some (0, some 1)
  | '*' => some (0, none)
  | '+' => some (1, none)
  | _ => none

/-- Reads a unit outside brackets that begins with a given character. -/
def readAtom (source : Source) (c : Char) (rest : List Char) : Option (Atom × Source) :=
  match c with
  | '\\' => readEscape (source.moveTo rest)
  | '.' => some (.dot, source.moveTo rest)
  | '^' => some (.anchor .lineStart, source.moveTo rest)
  | '$' => some (.anchor .lineEnd, source.moveTo rest)
  | _ => some (.literal c false, source.moveTo rest)

mutual

/-- Reads alternatives up to a closing parenthesis or the end. -/
def readAlternatives : (fuel : Nat) → Source → Option (List Expression × Source)
  | 0, _ => none
  | fuel + 1, source =>
    match readItems fuel [] source with
    | some (items, source) =>
      match source.rest with
      | '|' :: rest =>
        (readAlternatives fuel (source.moveTo rest)).map fun (others, source) =>
          (Expression.ofItems items.reverse :: others, source)
      | _ => some ([Expression.ofItems items.reverse], source)
    | none => none

/-- Reads items in a row behind those read so far, the last of which comes first. -/
def readItems : (fuel : Nat) → List Expression → Source → Option (List Expression × Source)
  | 0, _, _ => none
  | fuel + 1, items, source =>
    let source := source.skip
    match source.rest with
    | [] => some (items, source)
    | ')' :: _ => some (items, source)
    | '|' :: _ => some (items, source)
    | '(' :: rest =>
      match readOpening (source.moveTo rest) with
      | some (.change change, behind) =>
        readItems fuel (.switch change :: items)
          { behind with verbose := change.apply .verbose source.verbose }
      | some (.group number change, inner) =>
        match readAlternatives fuel
            { inner with verbose := change.apply .verbose source.verbose } with
        | some (others, behind) =>
          match behind.rest with
          | ')' :: rest =>
            readItems fuel (.group number change (Expression.ofAlternatives others) :: items)
              { behind with rest, verbose := source.verbose }
          | _ => none
        | none => none
      | none => none
    | '[' :: rest =>
      match readClass fuel (source.moveTo rest) with
      | some (negated, set, source) => readItems fuel (.bracketed negated set :: items) source
      | none => none
    | '{' :: rest =>
      match readBounds (source.moveTo rest) with
      | some (bounds, source) =>
        match repeatLast items bounds with
        | some items => readItems fuel items source
        | none => none
      | none => none
    | c :: rest =>
      match boundsOfMark? c with
      | some (least, most) =>
        let (bounds, source) := readLazy least most (source.moveTo rest)
        match repeatLast items bounds with
        | some items => readItems fuel items source
        | none => none
      | none =>
        match readAtom source c rest with
        | some (atom, source) => readItems fuel (.atom atom :: items) source
        | none => none

end

/-- The largest depth that a pattern may have. -/
def depthLimit : Nat := 250

/-- Reads a whole pattern. -/
def readPattern (verbose : Bool) (text : List Char) : Option Expression :=
  match readAlternatives (2 * text.length + 2) ⟨text, verbose, 0, []⟩ with
  | some (alternatives, source) =>
    let expression := Expression.ofAlternatives alternatives
    if source.rest.isEmpty && decide (expression.depth ≤ depthLimit) then some expression else none
  | none => none

end TreeQuery.Pattern
