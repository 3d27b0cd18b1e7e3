import TreeQuery.Fallible
import TreeQuery.Proofs.Query.Grammatical

/-!
# Reading single tokens

The readers that take one token at a time, and that of arrays, return just the values whose pieces
the tokens spell. `Returns` speaks of what a reading returns without the bound on the tokens left,
which is a matter of its type.

## Main definitions and results

* `Returns` — a reading returns a value and the tokens behind it.
* `returns_parseScalar`: a scalar is read from the token that stands for it.
* `spells_of_returns_parseElements`, `returns_parseElements_of_spells`: an array is read from the
  tokens that spell its elements.
-/

namespace TreeQuery

open Fallible

/-! ### Lexemes and their parts -/

namespace Lexeme

variable {lexeme : Lexeme}

theorem part?_eq_kind {name : String} : lexeme.part? = some (.kind name) ↔ lexeme = .kind name := by
  cases lexeme <;> simp [part?]

theorem part?_eq_openBracket : lexeme.part? = some .openBracket ↔ lexeme = .openBracket := by
  cases lexeme <;> simp [part?]

theorem part?_eq_closeBracket : lexeme.part? = some .closeBracket ↔ lexeme = .closeBracket := by
  cases lexeme <;> simp [part?]

theorem part?_eq_openParen : lexeme.part? = some .openParen ↔ lexeme = .openParen := by
  cases lexeme <;> simp [part?]

theorem part?_eq_closeParen : lexeme.part? = some .closeParen ↔ lexeme = .closeParen := by
  cases lexeme <;> simp [part?]

theorem part?_eq_comma : lexeme.part? = some .comma ↔ lexeme = .comma := by
  cases lexeme <;> simp [part?]

theorem part?_eq_combinator {c : Combinator} :
    lexeme.part? = some (.combinator c) ↔ lexeme = .combinator c := by
  cases lexeme <;> simp [part?]

theorem part?_eq_pseudo {p : PseudoClass} :
    lexeme.part? = some (.pseudo p) ↔ lexeme = .pseudo p := by
  cases lexeme <;> simp [part?]

theorem part?_eq_position {p : Position} :
    lexeme.part? = some (.position p) ↔ lexeme = .position p := by
  cases lexeme <;> simp [part?]

theorem part?_eq_operator {op : Operator} :
    lexeme.part? = some (.operator op) ↔ lexeme = .operator op := by
  cases lexeme <;> simp [part?]

/-- A scope stands for the path of its text, which several texts may have. -/
theorem part?_eq_scope {path : KeyPath} :
    lexeme.part? = some (.scope path) ↔
      ∃ text, lexeme = .scope text ∧ KeyPath.ofChars text.toList = path := by
  cases lexeme <;> simp [part?]

/-- A key stands for the path of its text, which several texts may have. -/
theorem part?_eq_key {path : KeyPath} :
    lexeme.part? = some (.key path) ↔
      ∃ text, lexeme = .key text ∧ KeyPath.ofChars text.toList = path := by
  cases lexeme <;> simp [part?]

end Lexeme

/-! ### Tokens whose parts are written -/

/-- Whether every part that tokens stand for is one as it is written. Tokens cut from a text are
such tokens. -/
def AreWritten (tokens : List Token) : Prop :=
  ∀ token ∈ tokens, ∀ part ∈ token.lexeme.part?, part.isWritten = true

/-- Behind tokens that are written they are written. -/
theorem AreWritten.tail {token : Token} {tokens : List Token} (h : AreWritten (token :: tokens)) :
    AreWritten tokens :=
  fun t ht => h t (List.mem_cons_of_mem _ ht)

/-- The first of tokens that are written stands for a part that is written. -/
theorem AreWritten.head {token : Token} {tokens : List Token} {part : Part}
    (h : AreWritten (token :: tokens)) (hpart : token.lexeme.part? = some part) :
    part.isWritten = true :=
  h token List.mem_cons_self part hpart

/-- What pieces leave of tokens that are written is written. -/
theorem AreWritten.rest {tokens rest : List Token} {pieces : List Piece} (h : AreWritten tokens)
    (hspells : Spells tokens pieces rest) : AreWritten rest := by
  induction hspells with
  | nil => exact h
  | cons _ _ ih => exact ih h.tail

/-! ### Single tokens -/

/-- Of a piece that may stand anywhere a token has to have the part. -/
theorem Token.fits_free {token : Token} {part : Part} :
    token.Fits ⟨part, .free⟩ ↔ token.lexeme.part? = some part :=
  ⟨fun h => h.part, fun h => ⟨h, rfl⟩⟩

/-- For a piece that is attached there must be no blank before the token. -/
theorem Token.fits_attached {token : Token} {part : Part} :
    token.Fits ⟨part, .attached⟩ ↔ token.lexeme.part? = some part ∧ token.spaced = false :=
  ⟨fun h => ⟨h.part, by simpa [Spacing.admits] using h.spacing⟩,
    fun h => ⟨h.1, by simp [Spacing.admits, h.2]⟩⟩

/-- A reading returns a value and the tokens behind it. -/
def Returns {α : Type} {bound : Nat} (reading : Reading α bound) (value : α) (rest : List Token) :
    Prop :=
  ∃ hlt, reading = .ok ⟨value, rest, hlt⟩

/-- A reading that succeeds returns its value and what it leaves. -/
theorem returns_ok {α : Type} {bound : Nat} {x value : α} {behind rest : List Token}
    {hlt : behind.length < bound} :
    Returns (.ok ⟨x, behind, hlt⟩ : Reading α bound) value rest ↔ x = value ∧ behind = rest := by
  constructor
  · rintro ⟨_, heq⟩
    cases heq
    exact ⟨rfl, rfl⟩
  · rintro ⟨rfl, rfl⟩
    exact ⟨hlt, rfl⟩

/-- A reading that fails returns nothing. -/
theorem not_returns_error {α : Type} {bound : Nat} {error : ParseError} {value : α}
    {rest : List Token} : ¬ Returns (.error error : Reading α bound) value rest := by
  rintro ⟨_, heq⟩
  cases heq

/-- Readings in a row return when each of them does. -/
theorem returns_bind {α β : Type} {bound bound' : Nat} {reading : Reading α bound}
    {next : Parsed Token α bound → Reading β bound'} {value : β} {rest : List Token} :
    Returns (reading >>= next) value rest ↔
      ∃ x middle hlt,
        reading = .ok ⟨x, middle, hlt⟩ ∧ Returns (next ⟨x, middle, hlt⟩) value rest := by
  cases reading with
  | error e => simp [bind, Except.bind, Returns]
  | ok parsed =>
    obtain ⟨x, middle, hlt⟩ := parsed
    constructor
    · intro h
      exact ⟨x, middle, hlt, rfl, h⟩
    · rintro ⟨_, _, _, heq, h⟩
      cases heq
      exact h

/-- What is asked of the first of some tokens, when they are known. -/
theorem exists_cons_eq_cons {token : Token} {behind rest : List Token} {p : Token → Prop} :
    (∃ first, token :: behind = first :: rest ∧ p first) ↔ p token ∧ behind = rest := by
  constructor
  · rintro ⟨first, heq, hp⟩
    obtain ⟨rfl, rfl⟩ := List.cons.inj heq
    exact ⟨hp, rfl⟩
  · rintro ⟨hp, rfl⟩
    exact ⟨token, rfl, hp⟩

/-- A given token is taken from in front of the others. -/
theorem returns_expect {lexeme : Lexeme} (expected : Expected) {tokens rest : List Token} :
    Returns (expect lexeme expected tokens) () rest ↔
      ∃ token, tokens = token :: rest ∧ token.lexeme = lexeme := by
  cases tokens with
  | nil => simp [expect, Returns]
  | cons token behind =>
    rw [exists_cons_eq_cons]
    change Returns (if token.lexeme = lexeme then .ok ⟨(), behind, Nat.lt_succ_self _⟩
      else .error (refuse expected (token :: behind))) () rest ↔ _
    split
    · rename_i hlexeme
      simp [returns_ok, hlexeme]
    · rename_i hlexeme
      simp [not_returns_error, hlexeme]

/-- A scalar is read from the token that stands for it. -/
theorem returns_parseScalar {tokens rest : List Token} {value : Value} :
    Returns (parseScalar tokens) value rest ↔
      ∃ token, tokens = token :: rest ∧ token.lexeme.part? = some (.scalar value) := by
  cases tokens with
  | nil => simp [parseScalar, Returns]
  | cons token behind =>
    rw [exists_cons_eq_cons]
    obtain ⟨lexeme, offset, spaced⟩ := token
    cases lexeme with
    | text text => simp [parseScalar, returns_ok, Lexeme.part?]
    | word word => simp [parseScalar, returns_ok, Lexeme.part?]
    | pattern source flags =>
      cases hpattern : Pattern.ofSource? source flags with
      | some pattern => simp [parseScalar, hpattern, returns_ok, Lexeme.part?]
      | none => simp [parseScalar, hpattern, not_returns_error, Lexeme.part?]
    | _ => simp [parseScalar, not_returns_error, Lexeme.part?]

/-- No attribute follows. -/
def EndsAttributes (rest : List Token) : Prop :=
  ∀ token ∈ rest.head?, token.lexeme ≠ .openBracket

/-- No pseudo class follows without a blank before it. -/
def EndsPseudo (rest : List Token) : Prop :=
  ∀ token ∈ rest.head?, ∀ pseudoClass, token.lexeme = .pseudo pseudoClass → token.spaced = true

/-- No position follows without a blank before it. -/
def EndsPosition (rest : List Token) : Prop :=
  ∀ token ∈ rest.head?, ∀ position, token.lexeme = .position position → token.spaced = true

/-- Tokens begin with a lexeme of one form that has no blank before it, or with none such. -/
theorem attached_or {α : Type} (form : α → Lexeme) (tokens : List Token) :
    (∃ a offset rest, tokens = ⟨form a, offset, false⟩ :: rest) ∨
      ∀ token ∈ tokens.head?, ∀ a, token.lexeme = form a → token.spaced = true := by
  rcases tokens with _ | ⟨⟨lexeme, offset, spaced⟩, rest⟩
  · exact .inr fun _ h => nomatch h
  · by_cases h : (∃ a, lexeme = form a) ∧ spaced = false
    · obtain ⟨⟨a, rfl⟩, rfl⟩ := h
      exact .inl ⟨a, offset, rest, rfl⟩
    · right
      rintro _ ⟨⟩ a hlexeme
      exact Bool.of_not_eq_false fun hspaced => h ⟨⟨a, hlexeme⟩, hspaced⟩

/-- Tokens begin with a position that is attached, or none follows. -/
theorem endsPosition_or (tokens : List Token) :
    (∃ position offset rest, tokens = ⟨.position position, offset, false⟩ :: rest) ∨
      EndsPosition tokens :=
  attached_or Lexeme.position tokens

/-- Tokens begin with a pseudo class that is attached, or none follows. -/
theorem endsPseudo_or (tokens : List Token) :
    (∃ pseudoClass offset rest, tokens = ⟨.pseudo pseudoClass, offset, false⟩ :: rest) ∨
      EndsPseudo tokens :=
  attached_or Lexeme.pseudo tokens

/-- Where no attached position follows, none is taken. -/
theorem takePosition_of_ends {tokens : List Token} (h : EndsPosition tokens) :
    takePosition tokens = ⟨none, tokens, Nat.lt_succ_self _⟩ := by
  unfold takePosition
  split
  · exact absurd (h _ rfl _ rfl) (by simp)
  · rfl

/-- **A position is taken exactly when one is attached.** -/
theorem takePosition_iff {tokens rest : List Token} {position : Option Position} :
    (takePosition tokens).value = position ∧ (takePosition tokens).rest = rest ↔
      Spells tokens (positionPieces .attached position) rest ∧
        (position = none → EndsPosition rest) := by
  rcases endsPosition_or tokens with ⟨found, offset, behind, rfl⟩ | hends
  · change some found = position ∧ behind = rest ↔ _
    constructor
    · rintro ⟨rfl, rfl⟩
      exact ⟨.single (Token.fits_attached.mpr ⟨rfl, rfl⟩), fun h => nomatch h⟩
    · rintro ⟨hspells, hnone⟩
      cases position with
      | none =>
        obtain rfl := Spells.nil_iff.mp hspells
        exact absurd (hnone rfl _ rfl _ rfl) (by simp)
      | some position =>
        obtain ⟨token, behind', heq, hfits, hrest⟩ := Spells.cons_iff.mp hspells
        obtain ⟨rfl, rfl⟩ := List.cons.inj heq
        obtain rfl := Spells.nil_iff.mp hrest
        cases Lexeme.part?_eq_position.mp hfits.part
        exact ⟨rfl, rfl⟩
  · rw [takePosition_of_ends hends]
    constructor
    · rintro ⟨rfl, rfl⟩
      exact ⟨.nil _, fun _ => hends⟩
    · rintro ⟨hspells, hnone⟩
      cases position with
      | none => exact ⟨rfl, Spells.nil_iff.mp hspells⟩
      | some position =>
        obtain ⟨token, behind, rfl, hfits, hrest⟩ := Spells.cons_iff.mp hspells
        obtain ⟨hpart, hspaced⟩ := Token.fits_attached.mp hfits
        rw [hends _ rfl _ (Lexeme.part?_eq_position.mp hpart)] at hspaced
        cases hspaced

/-! ### Arrays -/

/-- An array without further elements ends at its parenthesis. -/
theorem parseElements_closeParen {offset : Nat} {spaced : Bool} {rest : List Token} :
    parseElements (⟨.closeParen, offset, spaced⟩ :: rest) = .ok ⟨[], rest, Nat.lt_succ_self _⟩ := by
  rw [parseElements]

/-- The elements of an array are scalars, each spelled by one token, up to the parenthesis. -/
theorem spells_of_returns_parseElements {tokens rest : List Token} {items : List Value}
    (h : Returns (parseElements tokens) items rest) : Spells tokens (elementPieces items) rest := by
  rw [parseElements.eq_def] at h
  split at h
  · obtain ⟨rfl, rfl⟩ := returns_ok.mp h
    exact .single (Token.fits_free.mpr rfl)
  · obtain ⟨first, behind, hlt, hfirst, h⟩ := returns_bind.mp h
    obtain ⟨others, behind', hlt', hothers, h⟩ := returns_bind.mp h
    obtain ⟨rfl, rfl⟩ := returns_ok.mp h
    obtain ⟨token, rfl, hpart⟩ := returns_parseScalar.mp ⟨hlt, hfirst⟩
    have := hlt
    exact .cons (Token.fits_free.mpr hpart) (spells_of_returns_parseElements ⟨hlt', hothers⟩)
termination_by tokens.length

/-- The elements of an array are read from the tokens that spell them. -/
theorem returns_parseElements_of_spells {items : List Value} {tokens rest : List Token}
    (h : Spells tokens (elementPieces items) rest) : Returns (parseElements tokens) items rest := by
  induction items generalizing tokens with
  | nil =>
    obtain ⟨⟨lexeme, offset, spaced⟩, behind, rfl, hfits, hrest⟩ := Spells.cons_iff.mp h
    obtain rfl := Lexeme.part?_eq_closeParen.mp hfits.part
    obtain rfl := Spells.nil_iff.mp hrest
    exact ⟨Nat.lt_succ_self _, parseElements_closeParen⟩
  | cons value items ih =>
    obtain ⟨token, behind, htokens, hfits, hrest⟩ := Spells.cons_iff.mp h
    obtain ⟨hlt, hfirst⟩ := returns_parseScalar.mpr ⟨token, htokens, hfits.part⟩
    obtain ⟨hlt', hothers⟩ := ih hrest
    rw [parseElements.eq_def]
    split
    · obtain ⟨rfl, -⟩ := List.cons.inj htokens
      exact absurd hfits.part (by simp [Lexeme.part?])
    · refine returns_bind.mpr ⟨_, _, hlt, hfirst, ?_⟩
      exact returns_bind.mpr ⟨_, _, hlt', hothers, returns_ok.mpr ⟨rfl, rfl⟩⟩

end TreeQuery
