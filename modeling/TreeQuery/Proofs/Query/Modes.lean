import TreeQuery.Proofs.Query.Reads

/-!
# Where lexemes can stand

A mode lets only some lexemes stand, and each of them leads to modes that depend on nothing else in
the text. So the lexer is a stack machine over the lexemes that it finds, and what is known about a
row of lexemes says what the modes behind it are.

A run **nests** when it leaves alone what is around the modes that it starts in: the outermost mode
is a selector throughout, and no parenthesis is closed there that was not opened in the run. Such a
run is the same wherever its text stands.

## Main definitions and results

* `Modes.after?` — the modes behind a lexeme, if it can stand in the modes before it.
* `Cursor.after?_of_next`: what a token says about the modes around it.
* `Cursor.Nests` — runs that leave alone what is around them.
* `exists_run_of_tokensFrom`: the tokens of a text are those of a run and the end of the query.
-/

namespace TreeQuery

/-! ### The modes behind a lexeme -/

/-- Whether a lexeme is a value that is neither an array nor a selector. -/
def Lexeme.isScalar : Lexeme → Bool
  | text _ | pattern _ _ | word _ => true
  | _ => false

/-- The modes behind a lexeme, if it can stand in the mode in force. -/
def Modes.after? (modes : Modes) : Lexeme → Option Modes
  | .kind _ =>
    match modes.current with
    | .selector => some modes
    | .value => some ((modes.set .attributeEnd).push .valueSelector)
    | _ => none
  | .scope _ | .combinator _ | .comma => if modes.current = .selector then some modes else none
  | .pseudo _ | .position _ =>
    if modes.current = .selector ∨ modes.current = .valueSelector then some modes else none
  | .openBracket =>
    if modes.current = .selector ∨ modes.current = .valueSelector then some (modes.push .key)
    else none
  | .closeBracket => if modes.current = .attributeEnd then some modes.pop else none
  | .openParen =>
    match modes.current with
    | .selector | .valueSelector => some (modes.push .selector)
    | .value => some ((modes.set .attributeEnd).push .array)
    | _ => none
  | .closeParen =>
    if modes.current = .selector ∨ modes.current = .array then some modes.pop else none
  | .key _ => if modes.current = .key then some (modes.set .operator) else none
  | .operator _ => if modes.current = .operator then some (modes.set .value) else none
  | .text _ | .pattern _ _ | .word _ =>
    match modes.current with
    | .value => some (modes.set .attributeEnd)
    | .array => some modes
    | _ => none
  | .endOfQuery => none

variable {modes modes' : Modes} {offset : Nat} {c : Char} {rest behind : List Char}
  {lexeme : Lexeme}

/-- What is scanned as a scalar is a scalar lexeme. -/
theorem ScansScalar.isScalar (h : ScansScalar c rest lexeme behind) : lexeme.isScalar = true := by
  cases h <;> rfl

/-- A scalar ends a value, and in an array more of them may follow. -/
theorem Modes.after?_scalar (h : lexeme.isScalar = true) :
    modes.after? lexeme =
      match modes.current with
      | .value => some (modes.set .attributeEnd)
      | .array => some modes
      | _ => none := by
  cases lexeme <;> first | rfl | cases h

/-- **The modes behind a lexeme depend on the lexeme and on the modes before it alone.** -/
theorem after?_of_scan (h : scan modes offset c rest = .ok (lexeme, behind, modes')) :
    modes.after? lexeme = some modes' := by
  cases scans_of_scan h with
  | scalarValue hmode _ _ hscalar | element hmode _ hscalar =>
    rw [Modes.after?_scalar hscalar.isScalar, hmode]
  | pseudo hbegins | position hbegins => exact if_pos hbegins.mode
  | openBracket hmode | closeParen hmode => exact if_pos hmode
  | openParen hmode =>
    rcases hmode with hmode | hmode <;> rw [Modes.after?, hmode]
  | kind hmode | kindValue hmode | openArray hmode => rw [Modes.after?, hmode]
  | scope hmode | comma hmode | combinator hmode | closeBracket hmode | key hmode | symbol hmode
  | wordOperator hmode => exact if_pos hmode

/-! ### The modes at a token -/

/-- The modes in which the next token is read. -/
def Cursor.settled (cursor : Cursor) : Modes :=
  Modes.settle cursor.rest cursor.modes.current cursor.modes.outer

/-- Outside of a selector used as a value the next token is read in the mode in force. -/
theorem Cursor.settled_of_ne {cursor : Cursor} (h : cursor.modes.current ≠ .valueSelector) :
    cursor.settled = cursor.modes :=
  Modes.settle_of_ne h _ _

/-- A selector used as a value either goes on or has come to its end. -/
theorem Cursor.settled_valueSelector {cursor : Cursor} {mode : Mode} {outer : List Mode}
    (h : cursor.modes = ⟨.valueSelector, mode :: outer⟩) (hmode : mode ≠ .valueSelector) :
    cursor.settled = cursor.modes ∨ cursor.settled = ⟨mode, outer⟩ := by
  unfold Cursor.settled
  cases hcontinues : Modes.continuesValue cursor.rest with
  | true => exact .inl (Modes.settle_continues hcontinues _ _)
  | false =>
    right
    rw [h, Modes.settle_ends hcontinues, Modes.settle_of_ne hmode]

/-- Where a selector used as a value is still in force after modes are left, the text goes on with
it. -/
theorem Modes.continuesValue_of_settle {text : List Char} {mode inner : Mode} {outer : List Mode}
    {above : List Mode} (h : settle text mode outer = ⟨.valueSelector, inner :: above⟩) :
    continuesValue text = true := by
  induction outer generalizing mode with
  | nil => cases mode <;> simp [settle] at h
  | cons next outer ih =>
    by_cases hmode : mode = .valueSelector
    · subst hmode
      cases hcontinues : continuesValue text with
      | true => rfl
      | false =>
        rw [settle_ends hcontinues] at h
        exact hcontinues.symm.trans (ih h)
    · rw [settle_of_ne hmode] at h
      exact absurd (Modes.mk.inj h).1 hmode

/-- **What a token says about the modes around it**: the lexeme can stand where it was found, and a
token with which a selector used as a value goes on has no blank before it. -/
theorem Cursor.after?_of_next {cursor next : Cursor} {token : Token}
    (h : cursor.next = .ok (token, next)) (hlast : token.lexeme ≠ .endOfQuery) :
    cursor.settled.after? token.lexeme = some next.modes ∧
      ∀ mode outer, cursor.settled = ⟨.valueSelector, mode :: outer⟩ → token.spaced = false := by
  unfold Cursor.next at h
  dsimp only at h
  split at h
  · split at h <;> cases h
    exact absurd rfl hlast
  · split at h <;> cases h
    rename_i hscan
    refine ⟨after?_of_scan hscan, fun mode outer hsettled => ?_⟩
    have hcontinues := Modes.continuesValue_of_settle hsettled
    unfold Modes.continuesValue at hcontinues
    split at hcontinues
    · rename_i d text hrest
      have hblank : Text.isBlank d = false := by
        simp only [Bool.or_eq_true, beq_iff_eq] at hcontinues
        rcases hcontinues with (rfl | rfl) | rfl <;> decide
      have hdrop : (d :: text).dropWhile Text.isBlank = d :: text := by
        rw [List.dropWhile_cons, if_neg (by simp [hblank])]
      rw [hrest, hdrop, Nat.sub_self]
      rfl
    · cases hcontinues

/-! ### Runs -/

namespace Cursor

variable {cursor behind : Cursor} {token : Token} {tokens more : List Token}

theorem run_nil : Run cursor [] behind ↔ cursor = behind := by
  constructor
  · rintro ⟨⟩
    rfl
  · rintro rfl
    exact .nil cursor

/-- A run takes its first token and then the others. -/
theorem run_cons :
    Run cursor (token :: tokens) behind ↔
      ∃ next, cursor.next = .ok (token, next) ∧ token.lexeme ≠ .endOfQuery ∧
        Run next tokens behind := by
  constructor
  · rintro (_ | ⟨hnext, hlast, hrest⟩)
    exact ⟨_, hnext, hlast, hrest⟩
  · rintro ⟨next, hnext, hlast, hrest⟩
    exact .cons hnext hlast hrest

/-- A run over tokens in two groups is a run over each of them, one behind the other. -/
theorem run_append :
    Run cursor (tokens ++ more) behind ↔
      ∃ middle, Run cursor tokens middle ∧ Run middle more behind := by
  induction tokens generalizing cursor with
  | nil => simp [run_nil]
  | cons token tokens ih =>
    simp only [List.cons_append, run_cons, ih]
    constructor
    · rintro ⟨next, hnext, hlast, middle, hrun, hrest⟩
      exact ⟨middle, ⟨next, hnext, hlast, hrun⟩, hrest⟩
    · rintro ⟨middle, ⟨next, hnext, hlast, hrun⟩, hrest⟩
      exact ⟨next, hnext, hlast, middle, hrun, hrest⟩

/-- A token that leaves alone what is around the modes: where there is nothing around, a selector
is read, and no parenthesis is closed. -/
def Keeps (cursor : Cursor) (token : Token) : Prop :=
  cursor.settled.outer = [] → cursor.settled.current = .selector ∧ token.lexeme ≠ .closeParen

/-- A run that leaves alone what is around the modes in which it starts. -/
inductive Nests : Cursor → List Token → Cursor → Prop where
  /-- No token. -/
  | nil (cursor : Cursor) : Nests cursor [] cursor
  /-- One more token in front. -/
  | cons {cursor next behind : Cursor} {token : Token} {tokens : List Token} :
      cursor.next = .ok (token, next) → token.lexeme ≠ .endOfQuery → cursor.Keeps token →
      Nests next tokens behind → Nests cursor (token :: tokens) behind

/-- Runs that leave alone what is around them may follow each other. -/
theorem Nests.append {middle : Cursor} (h : Nests cursor tokens middle)
    (h' : Nests middle more behind) : Nests cursor (tokens ++ more) behind := by
  induction h with
  | nil => exact h'
  | cons hnext hlast hkeeps _ ih => exact .cons hnext hlast hkeeps (ih h')

end Cursor

/-- **The tokens of a text are those of a run and the end of the query.** -/
theorem exists_run_of_tokensFrom {cursor : Cursor} {tokens : List Token}
    (h : tokensFrom cursor = .ok tokens) :
    ∃ front last behind, tokens = front ++ [last] ∧ last.lexeme = .endOfQuery ∧
      cursor.Run front behind ∧ ∃ final, behind.next = .ok (last, final) := by
  rw [tokensFrom_eq_ok_iff_cuts] at h
  induction h with
  | @last cursor behind token hnext hlast =>
    exact ⟨[], token, cursor, rfl, hlast, .nil cursor, behind, hnext⟩
  | more hnext hlast _ ih =>
    obtain ⟨front, last, final, rfl, hend, hrun, hfinal⟩ := ih
    exact ⟨_ :: front, last, final, rfl, hend, .cons hnext hlast hrun, hfinal⟩

end TreeQuery
