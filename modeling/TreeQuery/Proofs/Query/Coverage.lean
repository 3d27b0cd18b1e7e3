import TreeQuery.Proofs.Query.ErrorPlaces
import TreeQuery.Proofs.Query.Fronts

/-!
# How tokens cover a text

The lexer is called for one token after another, up to the first call that finds the end of the
query or an error. Every other call takes at least one character, so that a text is cut by one call
for each of its characters at most, and one more for its end.

A call itself first leaves modes without reading anything. That this comes to an end is no matter of
the text: the outermost mode is the selector in which a text begins, and it is never left.

Nothing but blanks stands between two tokens. Since no lexeme ends with a blank, there is a blank
directly before a token exactly when the call that found it went over one.

## Conventions

A cursor is a place between two calls: its offset is the number of characters taken so far. All of
this is carried from call to call by one invariant, `Cursor.Stands`, on what is in front of a cursor
and what is around its modes.

## Main definitions and results

* `Modes.Leaves` — leaving modes one at a time.
* `Cursor.Takes` — a call that finds a token, and what it went over.
* `Cursor.Covers` — tokens that are taken one behind the other up to the end of a text.
* `tokensWithin` — the tokens that a number of calls is enough for.
* `tokenize_covers`: **a text is cut by finitely many calls, and its tokens cover it**.
-/

namespace TreeQuery

/-! ### Leaving modes -/

namespace Modes

/-- The outermost mode is the one in which a text begins. -/
def IsGrounded (modes : Modes) : Prop := (modes.current :: modes.outer).getLast? = some .selector

/-- Leaving modes one at a time, up to those in which the text is read. Where the outermost mode is
one to be left there is no such end. -/
inductive Leaves (text : List Char) : Modes → Modes → Prop where
  /-- The text is read in the mode in force. -/
  | stays {modes : Modes} : (modes.current = .valueSelector → continuesValue text = true) →
      Leaves text modes modes
  /-- A selector used as a value has come to its end. -/
  | pops {modes settled : Modes} : modes.current = .valueSelector → continuesValue text = false →
      Leaves text modes.pop settled → Leaves text modes settled

variable {modes modes' : Modes} {lexeme : Lexeme}

theorem isGrounded_start : start.IsGrounded := rfl

namespace IsGrounded

/-- The outermost mode stays where it is when another mode is entered. -/
theorem push (h : modes.IsGrounded) (mode : Mode) : (modes.push mode).IsGrounded := by
  rw [IsGrounded, Modes.push, List.getLast?_cons_cons]
  exact h

/-- The outermost mode stays where it is when a mode is left. -/
theorem pop (h : modes.IsGrounded) : modes.pop.IsGrounded := by
  obtain ⟨current, outer⟩ := modes
  cases outer with
  | nil => exact h
  | cons mode outer =>
    rw [IsGrounded, List.getLast?_cons_cons] at h
    exact h

/-- A mode that is not the one in which a text begins has others around it. -/
theorem set (h : modes.IsGrounded) (hcurrent : modes.current ≠ .selector) (mode : Mode) :
    (modes.set mode).IsGrounded := by
  obtain ⟨current, outer⟩ := modes
  cases outer with
  | nil => exact absurd (Option.some.inj h) hcurrent
  | cons next outer =>
    rw [IsGrounded, List.getLast?_cons_cons] at h
    rw [IsGrounded, Modes.set, List.getLast?_cons_cons]
    exact h

/-- **No lexeme leads out of the outermost mode.** -/
theorem after? (h : modes.IsGrounded) (hafter : modes.after? lexeme = some modes') :
    modes'.IsGrounded := by
  cases lexeme with
  | kind name =>
    rw [Modes.after?] at hafter
    split at hafter
    case h_1 =>
      cases hafter
      exact h
    case h_2 hmode =>
      cases hafter
      exact (h.set (by simp [hmode]) _).push _
    case h_3 => cases hafter
  | openParen =>
    rw [Modes.after?] at hafter
    split at hafter
    case h_3 hmode =>
      cases hafter
      exact (h.set (by simp [hmode]) _).push _
    case h_4 => cases hafter
    all_goals
      cases hafter
      exact h.push _
  | text | pattern | word =>
    rw [Modes.after?_scalar rfl] at hafter
    split at hafter
    case h_1 hmode =>
      cases hafter
      exact h.set (by simp [hmode]) _
    case h_2 =>
      cases hafter
      exact h
    case h_3 => cases hafter
  | scope | combinator | comma | pseudo | position =>
    obtain ⟨-, rfl⟩ := Option.ite_some_none_eq_some.mp hafter
    exact h
  | openBracket =>
    obtain ⟨-, rfl⟩ := Option.ite_some_none_eq_some.mp hafter
    exact h.push _
  | closeBracket | closeParen =>
    obtain ⟨-, rfl⟩ := Option.ite_some_none_eq_some.mp hafter
    exact h.pop
  | key | operator =>
    obtain ⟨hmode, rfl⟩ := Option.ite_some_none_eq_some.mp hafter
    exact h.set (by simp [hmode]) _
  | endOfQuery => cases hafter

/-- The outermost mode stays where it is when modes are left at a character. -/
theorem of_leaves {text : List Char} {settled : Modes} (h : modes.IsGrounded)
    (hleaves : modes.Leaves text settled) : settled.IsGrounded := by
  induction hleaves with
  | stays => exact h
  | pops _ _ _ ih => exact ih h.pop

end IsGrounded

/-- **Modes are left up to those in which the text is read**, if the outermost mode is none to be
left. -/
theorem leaves_settle (h : modes.IsGrounded) (text : List Char) :
    modes.Leaves text (settle text modes.current modes.outer) := by
  obtain ⟨mode, outer⟩ := modes
  induction outer generalizing mode with
  | nil =>
    obtain rfl : mode = .selector := Option.some.inj h
    exact .stays nofun
  | cons next outer ih =>
    by_cases hmode : mode = .valueSelector
    · subst hmode
      cases hcontinues : continuesValue text with
      | true =>
        rw [settle_continues hcontinues]
        exact .stays fun _ => hcontinues
      | false =>
        rw [settle_ends hcontinues]
        exact .pops rfl hcontinues (ih next h.pop)
    · rw [settle_of_ne hmode]
      exact .stays fun hvalue => absurd hvalue hmode

end Modes

/-! ### Calls of the lexer -/

/-- A blank stands directly before the place. -/
def BlankBefore (text : List Char) (place : Nat) : Prop :=
  0 < place ∧ ∃ c, text[place - 1]? = some c ∧ Text.isBlank c = true

/-- Nothing but blanks stands from one place up to another. -/
def BlanksBetween (text : List Char) (first last : Nat) : Prop :=
  ∀ place, first ≤ place → place < last → ∃ c, text[place]? = some c ∧ Text.isBlank c = true

/-- Behind a text that does not end with a blank, there is a blank before the place exactly when
there are blanks. -/
theorem blankBefore_iff {front blanks : List Char}
    (hfront : ∀ c ∈ front.getLast?, Text.isBlank c = false)
    (hblanks : ∀ c ∈ blanks, Text.isBlank c = true) (rest : List Char) :
    BlankBefore (front ++ blanks ++ rest) (front ++ blanks).length ↔ 0 < blanks.length := by
  have hlast : ∀ {c}, 0 < (front ++ blanks).length →
      ((front ++ blanks ++ rest)[(front ++ blanks).length - 1]? = some c ↔
        c ∈ (front ++ blanks).getLast?) := by
    intro c hpos
    rw [List.getElem?_append_left (by omega), List.getLast?_eq_getElem?, Option.mem_def]
  constructor
  · rintro ⟨hpos, c, hc, hblank⟩
    refine List.length_pos_iff.mpr ?_
    rintro rfl
    rw [hlast hpos, List.append_nil] at hc
    rw [hfront c hc] at hblank
    cases hblank
  · intro hpos
    have hne : blanks ≠ [] := List.length_pos_iff.mp hpos
    have hpos' : 0 < (front ++ blanks).length := by
      rw [List.length_append]
      omega
    refine ⟨hpos', blanks.getLast hne, ?_, hblanks _ (List.getLast_mem hne)⟩
    rw [hlast hpos', List.getLast?_append_of_ne_nil _ hne, List.getLast?_eq_some_getLast hne]
    rfl

/-- A run of blanks in the middle of a text lies between the two places at its ends. -/
theorem blanksBetween_append (front rest : List Char) {blanks : List Char}
    (hblanks : ∀ c ∈ blanks, Text.isBlank c = true) :
    BlanksBetween (front ++ blanks ++ rest) front.length (front ++ blanks).length := by
  intro place hfirst hlast
  rw [List.length_append] at hlast
  have hlt : place - front.length < blanks.length := by omega
  refine ⟨blanks[place - front.length], ?_, hblanks _ (List.getElem_mem hlt)⟩
  rw [List.append_assoc, List.getElem?_append_right hfirst, List.getElem?_append_left hlt]
  exact List.getElem?_eq_getElem hlt

namespace Cursor

/-- **A call that finds a token**, of a lexer that stands at the cursor in the text. -/
structure Takes (text : List Char) (cursor : Cursor) (token : Token) (behind : Cursor) : Prop where
  /-- The token is what the call gives, with the place behind it. -/
  next : cursor.next = .ok (token, behind)
  /-- That place is in the text. -/
  place : behind.offset ≤ text.length
  /-- The token stands at the cursor or behind it. -/
  follows : cursor.offset ≤ token.offset
  /-- Nothing but blanks stands between the two. -/
  blanks : BlanksBetween text cursor.offset token.offset
  /-- The token says whether a blank stands directly before it. -/
  spaced : token.spaced = true ↔ BlankBefore text token.offset
  /-- The place behind the token is past the token, unless the text ends there. -/
  passes : token.lexeme ≠ .endOfQuery → token.offset < behind.offset

/-- **A call of the lexer comes to an end in the text**, whether it finds a token or an error. -/
structure CallEnds (text : List Char) (cursor : Cursor) : Prop where
  /-- The lexer stands in the text. -/
  place : cursor.offset ≤ text.length
  /-- It leaves modes up to those in which it reads on. -/
  settles : cursor.modes.Leaves cursor.rest cursor.settled
  /-- If it finds a token, it takes it. -/
  takes : ∀ {token behind}, cursor.next = .ok (token, behind) → cursor.Takes text token behind
  /-- If it finds an error, this is in the text or at its end. -/
  refuses : ∀ {error}, cursor.next = .error error → error.offset ≤ text.length

/-- The tokens **cover** the text from the cursor on: each is taken where the one before it ends,
and the last one, which alone is the end of the query, stands at the end of the text. -/
inductive Covers (text : List Char) : Cursor → List Token → Prop where
  /-- The end of the query. -/
  | ends {cursor behind : Cursor} {token : Token} : cursor.Takes text token behind →
      token.lexeme = .endOfQuery → token.offset = text.length → Covers text cursor [token]
  /-- One more token in front. -/
  | more {cursor behind : Cursor} {token : Token} {tokens : List Token} :
      cursor.Takes text token behind → token.lexeme ≠ .endOfQuery → Covers text behind tokens →
      Covers text cursor (token :: tokens)

/-! ### What holds between two calls -/

/-- The cursor stands in the text between two calls: what is in front of it does not end with a
blank, and its outermost mode is the one in which the text begins. -/
structure Stands (text : List Char) (cursor : Cursor) : Prop where
  /-- The cursor is a place in the text. -/
  isIn : cursor.IsIn text
  /-- The text in front of it does not end with a blank. -/
  consumed : Consumes text cursor.rest
  /-- The outermost mode is that of the start. -/
  grounded : cursor.modes.IsGrounded

/-- The lexer starts at a place where it can stand. -/
theorem stands_start (text : List Char) : (start text).Stands text :=
  ⟨isIn_start text, .refl text, Modes.isGrounded_start⟩

namespace Stands

variable {text : List Char} {cursor behind : Cursor} {token : Token} {tokens : List Token}

/-- **A call that finds a token leads from one place where the lexer can stand to another.** -/
theorem next (h : cursor.Stands text) (hnext : cursor.next = .ok (token, behind))
    (hlast : token.lexeme ≠ .endOfQuery) : behind.Stands text := by
  refine ⟨h.isIn.next hnext, h.consumed.trans (consumes_of_next hnext hlast), ?_⟩
  have hsettled := h.grounded.of_leaves (Modes.leaves_settle h.grounded cursor.rest)
  exact hsettled.after? (after?_of_next hnext hlast).1

/-- A run leads from one place where the lexer can stand to another. -/
theorem run (h : cursor.Stands text) (hrun : cursor.Run tokens behind) : behind.Stands text := by
  induction hrun with
  | nil => exact h
  | cons hnext hlast _ ih => exact ih (h.next hnext hlast)

/-- The blanks at a cursor, in the text. -/
theorem blanks (h : cursor.Stands text) {blanks rest : List Char}
    (hrest : cursor.rest = blanks ++ rest) (hblanks : ∀ c ∈ blanks, Text.isBlank c = true) :
    BlanksBetween text cursor.offset (cursor.offset + blanks.length) ∧
      (decide (0 < blanks.length) = true ↔ BlankBefore text (cursor.offset + blanks.length)) := by
  obtain ⟨front, htext, hfront⟩ := h.consumed
  have hoffset : cursor.offset = front.length := by
    have hlength := h.isIn.length
    rw [htext, List.length_append] at hlength
    omega
  rw [hrest, ← List.append_assoc] at htext
  rw [htext, hoffset, ← List.length_append, decide_eq_true_iff]
  exact ⟨blanksBetween_append front rest hblanks, (blankBefore_iff hfront hblanks rest).symm⟩

/-- **A call that finds a token takes it**, going over blanks alone. -/
theorem takes (h : cursor.Stands text) (hnext : cursor.next = .ok (token, behind)) :
    cursor.Takes text token behind := by
  have hplace : behind.offset ≤ text.length := by
    have hlength := (h.isIn.next hnext).length
    omega
  have hfollows := (offset_le_of_next hnext).1
  have hpasses := fun hlast => offset_lt_of_next hnext hlast
  cases next_eq_iff.mp hnext with
  | ends hblanks _ =>
    obtain ⟨hbetween, hspaced⟩ := h.blanks (List.append_nil _).symm hblanks
    exact ⟨hnext, hplace, hfollows, hbetween, hspaced, hpasses⟩
  | takes hblanks _ hrest _ =>
    obtain ⟨hbetween, hspaced⟩ := h.blanks hrest hblanks
    exact ⟨hnext, hplace, hfollows, hbetween, hspaced, hpasses⟩

/-- **Every call comes to an end in the text.** -/
theorem callEnds (h : cursor.Stands text) : cursor.CallEnds text := by
  refine ⟨?_, Modes.leaves_settle h.grounded cursor.rest, h.takes, fun {error} hnext => ?_⟩
  · have hlength := h.isIn.length
    omega
  · rcases h.isIn.pointsInto hnext with ⟨expected, rfl⟩ | ⟨hlt, -⟩
    · exact Nat.le_refl _
    · exact Nat.le_of_lt hlt

/-- **The tokens from a cursor on cover the text from there.** -/
theorem covers (h : cursor.Stands text) (htokens : tokensFrom cursor = .ok tokens) :
    cursor.Covers text tokens := by
  rw [tokensFrom_eq_ok_iff_cuts] at htokens
  induction htokens with
  | last hnext hlast =>
    refine .ends (h.takes hnext) hlast ?_
    cases h.isIn.standsIn hnext with
    | ends _ hoffset => exact hoffset
    | begins hne => exact absurd hlast hne
  | more hnext hlast _ ih => exact .more (h.takes hnext) hlast (ih (h.next hnext hlast))

end Stands

end Cursor

/-! ### How many calls there are -/

/-- The tokens from a cursor on, or the error that comes up first, if a number of calls is enough to
find them. -/
def tokensWithin : Nat → Cursor → Option (Except ParseError (List Token))
  | 0, _ => none
  | calls + 1, cursor =>
    match cursor.next with
    | .error error => some (.error error)
    | .ok (token, behind) =>
      if token.lexeme = .endOfQuery then some (.ok [token])
      else (tokensWithin calls behind).map fun outcome => outcome.map (token :: ·)

/-- **One call for each character that is left, and one more, are enough.** -/
theorem tokensWithin_eq_some {calls : Nat} {cursor : Cursor} (h : cursor.rest.length < calls) :
    tokensWithin calls cursor = some (tokensFrom cursor) := by
  induction calls generalizing cursor with
  | zero => exact absurd h (Nat.not_lt_zero _)
  | succ calls ih =>
    rw [tokensWithin, tokensFrom_eq]
    cases hnext : cursor.next with
    | error error => rfl
    | ok found =>
      obtain ⟨token, behind⟩ := found
      by_cases hlast : token.lexeme = .endOfQuery
      · simp only [if_pos hlast]
      · have hshorter := Cursor.next_shortens hnext hlast
        simp only [if_neg hlast, ih (Nat.lt_of_lt_of_le hshorter (Nat.le_of_lt_succ h))]
        rfl

/-- **A text is cut by finitely many calls, and its tokens cover it.** One call for each character
and one more are enough, and each of them comes to an end in the text. If all find tokens, these
cover the text: the last one, which alone is the end of the query, stands at its end, each stands
behind the one before it, and there is nothing but blanks between two of them. -/
theorem tokenize_covers (text : String) :
    tokensWithin (text.length + 1) (.start text.toList) = some (tokenize text) ∧
      (∀ tokens cursor, Cursor.Run (.start text.toList) tokens cursor →
        cursor.CallEnds text.toList) ∧
      ∀ tokens, tokenize text = .ok tokens →
        Cursor.Covers text.toList (.start text.toList) tokens ∧
          tokens.Pairwise (·.offset < ·.offset) := by
  have hstart := Cursor.stands_start text.toList
  have hcalls : (Cursor.start text.toList).rest.length < text.length + 1 := by
    rw [Cursor.start, String.length_toList]
    exact Nat.lt_succ_self _
  refine ⟨tokensWithin_eq_some hcalls, fun tokens cursor hrun => ?_, fun tokens htokens => ?_⟩
  · exact (hstart.run hrun).callEnds
  · exact ⟨hstart.covers htokens, (Cursor.ordered_of_tokensFrom htokens).2⟩

/-- A selector that is used as a value, with a blank behind it and one before the next selector. -/
def nestedTokens : List Token :=
  [⟨.kind "a", 0, false⟩, ⟨.openBracket, 2, false⟩, ⟨.key "k", 3, false⟩,
    ⟨.operator .equal, 4, false⟩, ⟨.kind "b", 5, false⟩, ⟨.closeBracket, 8, true⟩,
    ⟨.kind "c", 10, true⟩, ⟨.endOfQuery, 12, false⟩]

/-- The tokens of the nested selector, as the lexer cuts them. -/
theorem tokenize_nested : tokenize ".a[k=.b ] .c" = .ok nestedTokens := by
  cbv

/-- Behind the nested selector, whose mode is left at the blank. -/
def nestedEnd : Cursor := ⟨" ] .c".toList, 7, ⟨.valueSelector, [.attributeEnd, .selector]⟩⟩

/-- A run over its first five tokens leads to its end. -/
theorem run_nestedEnd :
    Cursor.Run (.start ".a[k=.b ] .c".toList) (nestedTokens.take 5) nestedEnd := by
  refine .cons rfl ?_ (.cons rfl ?_ (.cons rfl ?_ (.cons rfl ?_ (.cons rfl ?_ (.nil _)))))
  all_goals simp

/-- The calls on the nested selector: as many as it has characters and one more are enough, and the
call at its end leaves the mode of the value. -/
theorem tokenize_covers_nested :
    tokensWithin 13 (.start ".a[k=.b ] .c".toList) = some (.ok nestedTokens) ∧
      Cursor.Run (.start ".a[k=.b ] .c".toList) (nestedTokens.take 5) nestedEnd ∧
      nestedEnd.CallEnds ".a[k=.b ] .c".toList ∧
      tokenize ".a[k=.b ] .c" = .ok nestedTokens ∧
      Cursor.Covers ".a[k=.b ] .c".toList (.start ".a[k=.b ] .c".toList) nestedTokens ∧
      nestedTokens.Pairwise (·.offset < ·.offset) := by
  obtain ⟨hcalls, hends, hcovers⟩ := tokenize_covers ".a[k=.b ] .c"
  rw [tokenize_nested] at hcalls
  exact ⟨hcalls, run_nestedEnd, hends _ _ run_nestedEnd, tokenize_nested, hcovers _ tokenize_nested⟩

end TreeQuery
