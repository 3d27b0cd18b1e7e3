import TreeQuery.Query.Token

/-!
# Cutting query text into tokens

What a character means hangs on where it stands: a dot begins a kind in a selector and separates
segments in a key. The lexer therefore works in modes, kept on a stack that follows brackets and
parentheses. In each mode the longest lexeme that begins at the next character is taken.

## Main definitions and results

* `Scans`, `scan_eq_ok_iff` — what a lexeme can be that begins with a character.
* `Cursor` — a place in the text with the modes in force there.
* `Cursor.next` — the next token and the cursor behind it.
* `Cursor.next_shortens` — every token but the last leaves less text, so that cutting ends.
* `tokenize` — all tokens of a text.
-/

namespace TreeQuery

/-! ### Modes -/

/-- What can stand at a place. -/
inductive Mode where
  /-- A selector. -/
  | selector
  /-- The key of an attribute. -/
  | key
  /-- The operator of an attribute. -/
  | operator
  /-- The value of an attribute. -/
  | value
  /-- The end of an attribute. -/
  | attributeEnd
  /-- An element of an array, or its end. -/
  | array
  /-- What a selector used as a value may go on with. -/
  | valueSelector
  deriving DecidableEq

/-- The mode in force and those around it, the nearest one first. -/
structure Modes where
  /-- The mode in force. -/
  current : Mode
  /-- The modes to return to. -/
  outer : List Mode

namespace Modes

/-- The modes at the start of a text. -/
def start : Modes := ⟨.selector, []⟩

/-- Enters a mode. -/
def push (modes : Modes) (mode : Mode) : Modes := ⟨mode, modes.current :: modes.outer⟩

/-- Replaces the mode in force. -/
def set (modes : Modes) (mode : Mode) : Modes := { modes with current := mode }

/-- Returns to the mode around. **The outermost mode is never left.** -/
def pop (modes : Modes) : Modes :=
  match modes.outer with
  | mode :: outer => ⟨mode, outer⟩
  | [] => modes

/-- Whether a selector used as a value goes on with the text. -/
def continuesValue : List Char → Bool
  | c :: _ => c == '[' || c == ':' || c == '('
  | [] => false

/-- Leaves selectors used as values unless the text goes on with them. A blank ends them too. -/
def settle (text : List Char) : Mode → List Mode → Modes
  | .valueSelector, mode :: outer =>
    if continuesValue text then ⟨.valueSelector, mode :: outer⟩ else settle text mode outer
  | mode, outer => ⟨mode, outer⟩

end Modes

/-- What a text that ends in a mode would have to go on with; in a selector it may end. -/
def Mode.expected? : Mode → Option Expected
  | selector => none
  | key => some .attributeKey
  | operator => some .operator
  | value => some .value
  | array => some .closeParen
  | attributeEnd => some .closeBracket
  | valueSelector => some .closeBracket

/-! ### Lexemes by mode -/

/-- A lexeme, the text behind it and the modes in force there. -/
abbrev Scanned := Lexeme × List Char × Modes

/-- The lexeme behind a colon. -/
def scanColon (modes : Modes) (offset : Nat) (rest : List Char) : Except ParseError Scanned :=
  let behind := rest.dropWhile isNameChar
  match String.ofList (rest.takeWhile isNameChar) with
  | "has" => .ok (.pseudo .has, behind, modes)
  | "not_has" => .ok (.pseudo .hasNot, behind, modes)
  | "first-child" => .ok (.position .first, behind, modes)
  | "last-child" => .ok (.position .last, behind, modes)
  | name => .error (.unexpectedToken (":" ++ name) .pseudoClass offset)

/-- The kind behind a dot, if a name follows. -/
def scanKind? (c : Char) (rest : List Char) : Option (Lexeme × List Char) :=
  if c == '.' && rest.head?.any isNameStart then
    some (.kind (String.ofList (rest.takeWhile isNameChar)), rest.dropWhile isNameChar)
  else none

/-- The lexeme that begins with a character of a selector. -/
def scanSelector (modes : Modes) (offset : Nat) (c : Char) (rest : List Char) :
    Except ParseError Scanned :=
  match scanKind? c rest with
  | some (lexeme, behind) => .ok (lexeme, behind, modes)
  | none =>
    match c with
    | '[' => .ok (.openBracket, rest, modes.push .key)
    | '(' => .ok (.openParen, rest, modes.push .selector)
    | ')' => .ok (.closeParen, rest, modes.pop)
    | ',' => .ok (.comma, rest, modes)
    | '>' => .ok (.combinator .child, rest, modes)
    | '+' => .ok (.combinator .nextSibling, rest, modes)
    | '~' => .ok (.combinator .laterSibling, rest, modes)
    | ':' => scanColon modes offset rest
    | _ =>
      if isNameStart c then
        .ok (.scope (String.ofList (c :: rest.takeWhile isPathChar)), rest.dropWhile isPathChar,
          modes)
      else .error (.unexpectedChar c offset)

/-- The lexeme with which a selector used as a value goes on. -/
def scanValueSelector (modes : Modes) (offset : Nat) (c : Char) (rest : List Char) :
    Except ParseError Scanned :=
  match c with
  | '[' => .ok (.openBracket, rest, modes.push .key)
  | '(' => .ok (.openParen, rest, modes.push .selector)
  | _ => scanColon modes offset rest

/-- The key of an attribute. -/
def scanKey (modes : Modes) (offset : Nat) (c : Char) (rest : List Char) :
    Except ParseError Scanned :=
  match readKey (c :: rest) with
  | ([], _) => .error (.unexpectedChar c offset)
  | (key, behind) => .ok (.key (String.ofList key), behind, modes.set .operator)

/-- The operator of an attribute. -/
def scanOperator (modes : Modes) (offset : Nat) (c : Char) (rest : List Char) :
    Except ParseError Scanned :=
  match readSymbol (c :: rest) with
  | some (operator, behind) => .ok (.operator operator, behind, modes.set .value)
  | none =>
    if Text.isAlphabetic c then
      match readWordOperator offset (c :: rest) with
      | .ok (operator, behind) => .ok (.operator operator, behind, modes.set .value)
      | .error error => .error error
    else .error (.unexpectedChar c offset)

/-- A value that is neither an array nor a selector. -/
def scanScalar (modes : Modes) (offset : Nat) (c : Char) (rest : List Char) :
    Except ParseError Scanned :=
  if c = '"' ∨ c = '\'' then
    match readQuoted c rest with
    | some (text, behind) => .ok (.text (String.ofList text), behind, modes)
    | none => .error (.unterminated .string offset)
  else if c = '/' then
    match readPatternSource rest with
    | some (source, behind) =>
      .ok (.pattern (String.ofList source) (String.ofList (behind.takeWhile isPatternFlag)),
        behind.dropWhile isPatternFlag, modes)
    | none => .error (.unterminated .regexp offset)
  else
    match readWord (c :: rest) with
    | ([], _) => .error (.unexpectedChar c offset)
    | (word, behind) => .ok (.word (String.ofList word), behind, modes)

/-- The lexeme that begins the value of an attribute. -/
def scanValue (modes : Modes) (offset : Nat) (c : Char) (rest : List Char) :
    Except ParseError Scanned :=
  let modes := modes.set .attributeEnd
  if c = '(' then .ok (.openParen, rest, modes.push .array)
  else
    match scanKind? c rest with
    | some (lexeme, behind) => .ok (lexeme, behind, modes.push .valueSelector)
    | none => scanScalar modes offset c rest

/-- An element of an array, or its end. -/
def scanArray (modes : Modes) (offset : Nat) (c : Char) (rest : List Char) :
    Except ParseError Scanned :=
  if c = ')' then .ok (.closeParen, rest, modes.pop) else scanScalar modes offset c rest

/-- The end of an attribute. -/
def scanAttributeEnd (modes : Modes) (offset : Nat) (c : Char) (rest : List Char) :
    Except ParseError Scanned :=
  if c = ']' then .ok (.closeBracket, rest, modes.pop) else .error (.unexpectedChar c offset)

/-- The lexeme that begins with a character, in the mode in force. -/
def scan (modes : Modes) (offset : Nat) (c : Char) (rest : List Char) : Except ParseError Scanned :=
  match modes.current with
  | .selector => scanSelector modes offset c rest
  | .valueSelector => scanValueSelector modes offset c rest
  | .key => scanKey modes offset c rest
  | .operator => scanOperator modes offset c rest
  | .value => scanValue modes offset c rest
  | .array => scanArray modes offset c rest
  | .attributeEnd => scanAttributeEnd modes offset c rest

/-! ### What a lexeme can be -/

/-- The scalars that begin with a character, and the text behind. -/
inductive ScansScalar (c : Char) (rest : List Char) : Lexeme → List Char → Prop where
  /-- A quoted text. -/
  | text {value behind : List Char} : c = '"' ∨ c = '\'' →
    readQuoted c rest = some (value, behind) →
      ScansScalar c rest (.text (String.ofList value)) behind
  /-- A regular expression and its flags. -/
  | pattern {source behind : List Char} : c = '/' → readPatternSource rest = some (source, behind) →
      ScansScalar c rest
        (.pattern (String.ofList source) (String.ofList (behind.takeWhile isPatternFlag)))
        (behind.dropWhile isPatternFlag)
  /-- An unquoted value. -/
  | word {value behind : List Char} : ¬ (c = '"' ∨ c = '\'') → c ≠ '/' →
      readWord (c :: rest) = (value, behind) → value ≠ [] →
      ScansScalar c rest (.word (String.ofList value)) behind

/-- The name behind the character is that of a pseudo class or a position: the character is a colon,
or what a selector used as a value goes on with besides brackets and parentheses. -/
def Modes.BeginsName (modes : Modes) (c : Char) : Prop :=
  modes.current = .selector ∧ c = ':' ∨ modes.current = .valueSelector ∧ c ≠ '[' ∧ c ≠ '('

/-- **The lexemes that begin with a character**, with the text and the modes behind: one case a
lexeme, which says in what modes it can stand. -/
inductive Scans (modes : Modes) (c : Char) (rest : List Char) :
    Lexeme → List Char → Modes → Prop where
  /-- A kind in a chain. -/
  | kind : modes.current = .selector → c = '.' → rest.head?.any isNameStart = true →
      Scans modes c rest (.kind (String.ofList (rest.takeWhile isNameChar)))
        (rest.dropWhile isNameChar) modes
  /-- A kind that begins a selector used as a value. -/
  | kindValue : modes.current = .value → c = '.' → rest.head?.any isNameStart = true →
      Scans modes c rest (.kind (String.ofList (rest.takeWhile isNameChar)))
        (rest.dropWhile isNameChar) ((modes.set .attributeEnd).push .valueSelector)
  /-- A scope. -/
  | scope : modes.current = .selector → isNameStart c = true →
      Scans modes c rest (.scope (String.ofList (c :: rest.takeWhile isPathChar)))
        (rest.dropWhile isPathChar) modes
  /-- A comma. -/
  | comma : modes.current = .selector → c = ',' → Scans modes c rest .comma rest modes
  /-- A combinator. -/
  | combinator {combinator : Combinator} : modes.current = .selector → c = combinator.sign →
      Scans modes c rest (.combinator combinator) rest modes
  /-- A pseudo class. -/
  | pseudo {p : PseudoClass} : modes.BeginsName c →
      String.ofList (rest.takeWhile isNameChar) = p.name →
      Scans modes c rest (.pseudo p) (rest.dropWhile isNameChar) modes
  /-- A position. -/
  | position {p : Position} : modes.BeginsName c →
      String.ofList (rest.takeWhile isNameChar) = p.name →
      Scans modes c rest (.position p) (rest.dropWhile isNameChar) modes
  /-- The opening of an attribute. -/
  | openBracket : modes.current = .selector ∨ modes.current = .valueSelector → c = '[' →
      Scans modes c rest .openBracket rest (modes.push .key)
  /-- The end of an attribute. -/
  | closeBracket : modes.current = .attributeEnd → c = ']' →
      Scans modes c rest .closeBracket rest modes.pop
  /-- The opening of the query of a pseudo class. -/
  | openParen : modes.current = .selector ∨ modes.current = .valueSelector → c = '(' →
      Scans modes c rest .openParen rest (modes.push .selector)
  /-- The opening of an array. -/
  | openArray : modes.current = .value → c = '(' →
      Scans modes c rest .openParen rest ((modes.set .attributeEnd).push .array)
  /-- The end of what a parenthesis opened. -/
  | closeParen : modes.current = .selector ∨ modes.current = .array → c = ')' →
      Scans modes c rest .closeParen rest modes.pop
  /-- The key of an attribute. -/
  | key {path behind : List Char} : modes.current = .key → readKey (c :: rest) = (path, behind) →
      path ≠ [] → Scans modes c rest (.key (String.ofList path)) behind (modes.set .operator)
  /-- An operator written with signs. -/
  | symbol {operator : Operator} {behind : List Char} : modes.current = .operator →
      readSymbol (c :: rest) = some (operator, behind) →
      Scans modes c rest (.operator operator) behind (modes.set .value)
  /-- An operator written with words. -/
  | wordOperator {operator : Operator} {behind : List Char} {offset : Nat} :
      modes.current = .operator → readSymbol (c :: rest) = none → Text.isAlphabetic c = true →
      readWordOperator offset (c :: rest) = .ok (operator, behind) →
      Scans modes c rest (.operator operator) behind (modes.set .value)
  /-- A value that is neither an array nor a selector. -/
  | scalarValue {lexeme : Lexeme} {behind : List Char} : modes.current = .value → c ≠ '(' →
      ¬ (c = '.' ∧ rest.head?.any isNameStart = true) → ScansScalar c rest lexeme behind →
      Scans modes c rest lexeme behind (modes.set .attributeEnd)
  /-- An element of an array. -/
  | element {lexeme : Lexeme} {behind : List Char} : modes.current = .array → c ≠ ')' →
      ScansScalar c rest lexeme behind → Scans modes c rest lexeme behind modes

section Inversion

variable {modes modes' : Modes} {offset : Nat} {c : Char} {rest behind : List Char}
  {lexeme : Lexeme}

/-- A name of a pseudo class or a position stands in a selector, in a chain or used as a value. -/
theorem Modes.BeginsName.mode (h : modes.BeginsName c) :
    modes.current = .selector ∨ modes.current = .valueSelector :=
  h.imp And.left And.left

/-- A kind is a dot with a name behind it, as long as the name goes on. -/
theorem scanKind?_eq_some_iff :
    scanKind? c rest = some (lexeme, behind) ↔
      (c = '.' ∧ rest.head?.any isNameStart = true) ∧
        .kind (String.ofList (rest.takeWhile isNameChar)) = lexeme ∧
        rest.dropWhile isNameChar = behind := by
  simp [scanKind?]

/-- There is no kind where no dot stands or no name follows it. -/
theorem scanKind?_eq_none_iff :
    scanKind? c rest = none ↔ ¬ (c = '.' ∧ rest.head?.any isNameStart = true) := by
  simp [scanKind?]

/-- **Scanning a scalar finds the scalars that there are**, and leaves the modes as they are. -/
theorem scanScalar_eq_ok_iff :
    scanScalar modes offset c rest = .ok (lexeme, behind, modes') ↔
      ScansScalar c rest lexeme behind ∧ modes' = modes := by
  constructor
  · intro h
    unfold scanScalar at h
    split at h
    · rename_i hquote
      split at h <;> cases h
      rename_i hread
      exact ⟨.text hquote hread, rfl⟩
    · rename_i hquote
      split at h
      · rename_i hslash
        split at h <;> cases h
        rename_i hread
        exact ⟨.pattern hslash hread, rfl⟩
      · rename_i hslash
        split at h <;> cases h
        rename_i hne hread
        exact ⟨.word hquote hslash hread hne, rfl⟩
  · rintro ⟨hscalar, rfl⟩
    cases hscalar with
    | text hquote hread => rw [scanScalar, if_pos hquote, hread]
    | pattern hslash hread =>
      subst hslash
      rw [scanScalar, if_neg (by decide), if_pos rfl, hread]
    | word hquote hslash hread hne =>
      obtain ⟨d, more, rfl⟩ := List.exists_cons_of_ne_nil hne
      rw [scanScalar, if_neg hquote, if_neg hslash, hread]

/-- What is found behind the start of a name is a pseudo class or a position of that name. -/
theorem scans_of_scanColon (h : scanColon modes offset rest = .ok (lexeme, behind, modes'))
    (hbegins : modes.BeginsName c) : Scans modes c rest lexeme behind modes' := by
  unfold scanColon at h
  split at h
  case h_5 => cases h
  all_goals
    rename_i hname
    cases h
    first
      | exact .pseudo hbegins hname
      | exact .position hbegins hname

/-- What a scan finds in a chain of selectors. -/
theorem scans_of_scanSelector (hmode : modes.current = .selector)
    (h : scanSelector modes offset c rest = .ok (lexeme, behind, modes')) :
    Scans modes c rest lexeme behind modes' := by
  unfold scanSelector at h
  split at h
  · rename_i hkind
    cases h
    obtain ⟨⟨hdot, hstart⟩, rfl, rfl⟩ := scanKind?_eq_some_iff.mp hkind
    exact .kind hmode hdot hstart
  · split at h
    case h_1 => cases h; exact .openBracket (.inl hmode) rfl
    case h_2 => cases h; exact .openParen (.inl hmode) rfl
    case h_3 => cases h; exact .closeParen (.inl hmode) rfl
    case h_4 => cases h; exact .comma hmode rfl
    case h_8 => exact scans_of_scanColon h (.inl ⟨hmode, rfl⟩)
    case h_9 =>
      split at h <;> cases h
      rename_i hstart
      exact .scope hmode hstart
    all_goals
      cases h
      exact .combinator hmode rfl

/-- **What a scan finds**, in every mode. -/
theorem scans_of_scan (h : scan modes offset c rest = .ok (lexeme, behind, modes')) :
    Scans modes c rest lexeme behind modes' := by
  unfold scan at h
  split at h
  · rename_i hmode
    exact scans_of_scanSelector hmode h
  · rename_i hmode
    unfold scanValueSelector at h
    split at h
    · cases h
      exact .openBracket (.inr hmode) rfl
    · cases h
      exact .openParen (.inr hmode) rfl
    · rename_i hbracket hparen
      exact scans_of_scanColon h (.inr ⟨hmode, hbracket, hparen⟩)
  · rename_i hmode
    unfold scanKey at h
    split at h <;> cases h
    rename_i hne hread
    exact .key hmode hread hne
  · rename_i hmode
    unfold scanOperator at h
    split at h
    · rename_i hread
      cases h
      exact .symbol hmode hread
    · rename_i hsymbol
      split at h
      · rename_i halpha
        split at h <;> cases h
        rename_i hread
        exact .wordOperator hmode hsymbol halpha hread
      · cases h
  · rename_i hmode
    unfold scanValue at h
    dsimp only at h
    split at h
    · rename_i hparen
      cases h
      exact .openArray hmode hparen
    · rename_i hparen
      split at h
      · rename_i hkind
        cases h
        obtain ⟨⟨hdot, hstart⟩, rfl, rfl⟩ := scanKind?_eq_some_iff.mp hkind
        exact .kindValue hmode hdot hstart
      · rename_i hkind
        obtain ⟨hscalar, rfl⟩ := scanScalar_eq_ok_iff.mp h
        exact .scalarValue hmode hparen (scanKind?_eq_none_iff.mp hkind) hscalar
  · rename_i hmode
    unfold scanArray at h
    split at h
    · rename_i hparen
      cases h
      exact .closeParen (.inr hmode) hparen
    · rename_i hparen
      obtain ⟨hscalar, rfl⟩ := scanScalar_eq_ok_iff.mp h
      exact .element hmode hparen hscalar
  · rename_i hmode
    unfold scanAttributeEnd at h
    split at h <;> cases h
    rename_i hbracket
    exact .closeBracket hmode hbracket

/-- Where a name begins, the scan reads it. -/
theorem Modes.BeginsName.scan_eq (h : modes.BeginsName c) (offset : Nat) (rest : List Char) :
    scan modes offset c rest = scanColon modes offset rest := by
  rcases h with ⟨hmode, rfl⟩ | ⟨hmode, hbracket, hparen⟩
  · rw [scan, hmode]
    rfl
  · rw [scan, hmode]
    dsimp only
    unfold scanValueSelector
    split
    · exact absurd rfl hbracket
    · exact absurd rfl hparen
    · rfl

/-- **A scan finds what there is**, in every mode. -/
theorem Scans.scan_eq (h : Scans modes c rest lexeme behind modes') (offset : Nat) :
    scan modes offset c rest = .ok (lexeme, behind, modes') := by
  cases h with
  | kind hmode hdot hstart =>
    have hkind := scanKind?_eq_some_iff.mpr ⟨⟨hdot, hstart⟩, rfl, rfl⟩
    simp only [scan, hmode, scanSelector.eq_def, hkind]
  | kindValue hmode hdot hstart =>
    have hkind := scanKind?_eq_some_iff.mpr ⟨⟨hdot, hstart⟩, rfl, rfl⟩
    have hparen : c ≠ '(' := by simp [hdot]
    simp only [scan, hmode, scanValue, if_neg hparen, hkind]
  | scope hmode hstart =>
    rw [scan, hmode]
    dsimp only
    unfold scanSelector
    split
    · rename_i hkind
      obtain ⟨⟨rfl, -⟩, -⟩ := scanKind?_eq_some_iff.mp hkind
      exact absurd hstart (by decide)
    · split
      case h_9 => rw [if_pos hstart]
      all_goals exact absurd hstart (by decide)
  | comma hmode hc =>
    subst hc
    rw [scan, hmode]
    rfl
  | @combinator combinator hmode hc =>
    subst hc
    rw [scan, hmode]
    cases combinator <;> rfl
  | @pseudo p hbegins hname =>
    rw [hbegins.scan_eq, scanColon, hname]
    cases p <;> rfl
  | @position p hbegins hname =>
    rw [hbegins.scan_eq, scanColon, hname]
    cases p <;> rfl
  | openBracket hmode hc =>
    subst hc
    rcases hmode with hmode | hmode <;> rw [scan, hmode] <;> rfl
  | closeBracket hmode hc =>
    subst hc
    rw [scan, hmode]
    rfl
  | openParen hmode hc =>
    subst hc
    rcases hmode with hmode | hmode <;> rw [scan, hmode] <;> rfl
  | openArray hmode hc =>
    subst hc
    rw [scan, hmode]
    rfl
  | closeParen hmode hc =>
    subst hc
    rcases hmode with hmode | hmode <;> rw [scan, hmode] <;> rfl
  | key hmode hread hne =>
    obtain ⟨d, more, rfl⟩ := List.exists_cons_of_ne_nil hne
    simp only [scan, hmode, scanKey, hread]
  | symbol hmode hread => simp only [scan, hmode, scanOperator, hread]
  | wordOperator hmode hsymbol halpha hread =>
    simp only [scan, hmode, scanOperator, hsymbol, if_pos halpha, readWordOperator_place hread]
  | scalarValue hmode hparen hkind hscalar =>
    have hnone := scanKind?_eq_none_iff.mpr hkind
    simp only [scan, hmode, scanValue, if_neg hparen, hnone]
    exact scanScalar_eq_ok_iff.mpr ⟨hscalar, rfl⟩
  | element hmode hparen hscalar =>
    simp only [scan, hmode, scanArray, if_neg hparen]
    exact scanScalar_eq_ok_iff.mpr ⟨hscalar, rfl⟩

/-- **A scan finds exactly the lexemes that there are**, wherever the character stands. -/
theorem scan_eq_ok_iff :
    scan modes offset c rest = .ok (lexeme, behind, modes') ↔
      Scans modes c rest lexeme behind modes' :=
  ⟨scans_of_scan, fun h => h.scan_eq offset⟩

end Inversion

/-! ### Tokens -/

/-- A place in a text. -/
structure Cursor where
  /-- The text from there on. -/
  rest : List Char
  /-- The number of characters before. -/
  offset : Nat
  /-- The modes in force. -/
  modes : Modes

namespace Cursor

/-- The start of a text. -/
def start (text : List Char) : Cursor := ⟨text, 0, .start⟩

/-- The next token and the place behind it. -/
def next (cursor : Cursor) : Except ParseError (Token × Cursor) :=
  let modes := Modes.settle cursor.rest cursor.modes.current cursor.modes.outer
  let text := cursor.rest.dropWhile Text.isBlank
  let blanks := cursor.rest.length - text.length
  let offset := cursor.offset + blanks
  let spaced := decide (0 < blanks)
  match text with
  | [] =>
    match modes.current.expected? with
    | none => .ok (⟨.endOfQuery, offset, spaced⟩, ⟨[], offset, modes⟩)
    | some expected => .error (.unexpectedEnd expected offset)
  | c :: rest =>
    match scan modes offset c rest with
    | .ok (lexeme, behind, modes) =>
      .ok (⟨lexeme, offset, spaced⟩, ⟨behind, offset + (rest.length + 1 - behind.length), modes⟩)
    | .error error => .error error

end Cursor

/-! ### Progress -/

/-- A scalar leaves an end of the text behind its first character. -/
theorem ScansScalar.suffix {c : Char} {rest behind : List Char} {lexeme : Lexeme}
    (h : ScansScalar c rest lexeme behind) : behind <:+ rest := by
  cases h with
  | text _ hread => exact readQuoted_suffix hread
  | pattern _ hread => exact (List.dropWhile_suffix _).trans (readPatternSource_suffix hread)
  | word _ _ hread hne => exact readWord_cons_suffix hread hne

/-- A lexeme leaves a part of the text behind its first character. -/
theorem scan_suffix {modes : Modes} {offset : Nat} {c : Char} {rest behind : List Char}
    {lexeme : Lexeme} {modes' : Modes}
    (h : scan modes offset c rest = .ok (lexeme, behind, modes')) : behind <:+ rest := by
  cases scans_of_scan h with
  | kind | kindValue | scope | pseudo | position => exact List.dropWhile_suffix _
  | key _ hread hne => exact readKey_cons_suffix hread hne
  | symbol _ hread => exact readSymbol_suffix hread
  | wordOperator _ _ halpha hread =>
    have hsuffix := readWordOperator_suffix hread
    rw [List.dropWhile_cons, if_pos (by simp [isOperatorChar, halpha])] at hsuffix
    exact hsuffix.trans (List.dropWhile_suffix _)
  | scalarValue _ _ _ hscalar | element _ _ hscalar => exact hscalar.suffix
  | _ => exact List.suffix_refl _

/-- **Every token but the last leaves less text.** -/
theorem Cursor.next_shortens {cursor cursor' : Cursor} {token : Token}
    (h : cursor.next = .ok (token, cursor')) (hlast : token.lexeme ≠ .endOfQuery) :
    cursor'.rest.length < cursor.rest.length := by
  unfold Cursor.next at h
  dsimp only at h
  split at h
  · split at h <;> cases h
    exact absurd rfl hlast
  · rename_i c rest htext
    split at h <;> cases h
    rename_i hscan
    have hbehind := (scan_suffix hscan).length_le
    have htail := (List.dropWhile_suffix (l := cursor.rest) Text.isBlank).length_le
    rw [htext, List.length_cons] at htail
    exact Nat.lt_of_le_of_lt hbehind htail

/-! ### Whole texts -/

/-- The tokens from a place on, the end of the query being the last one. -/
def tokensFrom (cursor : Cursor) : Except ParseError (List Token) :=
  match h : cursor.next with
  | .error error => .error error
  | .ok (token, behind) =>
    if hlast : token.lexeme = .endOfQuery then .ok [token]
    else
      have := Cursor.next_shortens h hlast
      match tokensFrom behind with
      | .ok tokens => .ok (token :: tokens)
      | .error error => .error error
termination_by cursor.rest.length

/-- The tokens of a text. -/
def tokenize (text : String) : Except ParseError (List Token) :=
  tokensFrom (Cursor.start text.toList)

end TreeQuery
