import TreeQuery.Json.Numeral

/-!
# Tokens of documents

A document is cut into tokens independently of where they stand. Cutting never fails: what is no
token becomes a malformed one, with which the list ends, so that an error further ahead does not
hide one before it.

## Main definitions

* `readUnits` — the units of a string up to its closing quote.
* `decode?` — the text of a string, unless it holds half a surrogate pair.
* `tokens` — the tokens of a text.
-/

namespace TreeQuery.Json

/-! ### Strings -/

/-- A unit of a string. -/
inductive StringUnit where
  /-- A character, written as such or as a short escape. -/
  | char (char : Char)
  /-- An escape of four hexadecimal digits. -/
  | code (code : Nat)

/-- The character of a short escape. -/
def shortEscape? : Char → Option Char
  | '"' => some '"'
  | '\\' => some '\\'
  | '/' => some '/'
  | 'b' => some '\x08'
  | 'f' => some '\x0c'
  | 'n' => some '\n'
  | 'r' => some '\r'
  | 't' => some '\t'
  | _ => none

/-- Reads the units of a string and its closing quote. Control characters have to be escaped. -/
def readUnits : (text : List Char) → Option (Parsed Char (List StringUnit) text.length)
  | [] => none
  | '"' :: rest => some ⟨[], rest, Nat.lt_succ_self _⟩
  | '\\' :: 'u' :: a :: b :: c :: d :: rest =>
    match readNat? 16 [a, b, c, d], readUnits rest with
    | some code, some units =>
      some ((units.map (StringUnit.code code :: ·)).weaken
        (Nat.le_add_right rest.length 6))
    | _, _ => none
  | '\\' :: c :: rest =>
    match shortEscape? c, readUnits rest with
    | some char, some units =>
      some ((units.map (StringUnit.char char :: ·)).weaken (Nat.le_add_right rest.length 2))
    | _, _ => none
  | c :: rest =>
    if c < ' ' ∨ c = '\\' then none
    else
      match readUnits rest with
      | some units =>
        some ((units.map (StringUnit.char c :: ·)).weaken (Nat.le_add_right rest.length 1))
      | none => none

/-- Whether a code is the first half of a surrogate pair. -/
def isLeading (code : Nat) : Bool := decide (0xD800 ≤ code ∧ code ≤ 0xDBFF)

/-- Whether a code is the second half of a surrogate pair. -/
def isTrailing (code : Nat) : Bool := decide (0xDC00 ≤ code ∧ code ≤ 0xDFFF)

/-- The character of a surrogate pair. -/
def combine (leading trailing : Nat) : Char :=
  Char.ofNat ((leading - 0xD800) * 0x400 + (trailing - 0xDC00) + 0x10000)

/-- The text of a string. **Half a surrogate pair has no text.** -/
def decode? : List StringUnit → Option (List Char)
  | [] => some []
  | .char c :: rest => (decode? rest).map (c :: ·)
  | .code leading :: .code trailing :: rest =>
    if isLeading leading then
      if isTrailing trailing then (decode? rest).map (combine leading trailing :: ·) else none
    else if isTrailing leading then none
    else (decode? (.code trailing :: rest)).map (Char.ofNat leading :: ·)
  | .code code :: rest =>
    if isLeading code || isTrailing code then none
    else (decode? rest).map (Char.ofNat code :: ·)

/-! ### Tokens -/

/-- A unit of a document. -/
inductive Token where
  /-- The opening of an array. -/
  | openBracket
  /-- The end of an array. -/
  | closeBracket
  /-- The opening of an object. -/
  | openBrace
  /-- The end of an object. -/
  | closeBrace
  /-- The mark between elements and between members. -/
  | comma
  /-- The mark behind a key. -/
  | colon
  /-- The null value. -/
  | null
  /-- A truth value. -/
  | boolean (value : Bool)
  /-- A number. -/
  | numeral (numeral : Numeral)
  /-- A string. -/
  | string (units : List StringUnit)
  /-- A text with which no token begins. -/
  | malformed

/-- Whether the character may stand between tokens. -/
def isSpace (c : Char) : Bool := c == ' ' || c == '\n' || c == '\t' || c == '\r'

/-- The token that is a single character. -/
def mark? : Char → Option Token
  | '[' => some .openBracket
  | ']' => some .closeBracket
  | '\x7b' => some .openBrace
  | '\x7d' => some .closeBrace
  | ',' => some .comma
  | ':' => some .colon
  | _ => none

/-- Reads the token at the front of a text. -/
def readToken (text : List Char) : Option (Parsed Char Token text.length) :=
  match text with
  | [] => none
  | 'n' :: 'u' :: 'l' :: 'l' :: rest => some ⟨.null, rest, by simp only [List.length_cons]; omega⟩
  | 't' :: 'r' :: 'u' :: 'e' :: rest =>
    some ⟨.boolean true, rest, by simp only [List.length_cons]; omega⟩
  | 'f' :: 'a' :: 'l' :: 's' :: 'e' :: rest =>
    some ⟨.boolean false, rest, by simp only [List.length_cons]; omega⟩
  | '"' :: rest =>
    (readUnits rest).map fun units => (units.map Token.string).weaken (Nat.le_succ _)
  | c :: rest =>
    match mark? c with
    | some token => some ⟨token, rest, Nat.lt_succ_self _⟩
    | none =>
      match h : readNumeral? (c :: rest) with
      | some (numeral, behind) => some ⟨.numeral numeral, behind, readNumeral?_length h⟩
      | none => none

/-- The tokens of a text. -/
def tokens (text : List Char) : List Token :=
  match text with
  | [] => []
  | c :: rest =>
    if isSpace c then tokens rest
    else
      match readToken (c :: rest) with
      | some token => token.value :: tokens token.rest
      | none => [.malformed]
termination_by text.length
decreasing_by
  · exact Nat.lt_succ_self _
  · exact token.rest_lt

end TreeQuery.Json
