import Mathlib.Data.List.TakeWhile
import TreeQuery.Proofs.Query.Modes

/-!
# Where a cursor stands

A cursor in a text has the part of the text behind it as what is left, and its offset counts the
characters before it. Taking a token leads from one place in the text to another, and a token other
than the last begins with a character that is no blank.

There are four ways to go on from a cursor: the text may end there or not, and what stands behind
the blanks may be a lexeme or not. All that is known about a step is said once, by
`Cursor.next_eq_iff`.

## Main definitions and results

* `Cursor.Advances` — the outcome of taking a token, case by case.
* `Cursor.next_eq_iff`: it is what the lexer gives.
* `Cursor.IsIn`, `Token.StandsIn` — cursors and tokens in a text.
* `Cursor.IsIn.standsIn_of_tokensFrom`: **the tokens of a text stand in it**.
-/

namespace TreeQuery

/-! ### Blanks in front -/

/-- A text is blanks, or it has a first character that is none. -/
theorem exists_blanks (text : List Char) :
    ∃ blanks, (∀ d ∈ blanks, Text.isBlank d = true) ∧
      (text = blanks ∨ ∃ c rest, Text.isBlank c = false ∧ text = blanks ++ c :: rest) := by
  induction text with
  | nil => exact ⟨[], List.forall_mem_nil _, .inl rfl⟩
  | cons d text ih =>
    by_cases hd : Text.isBlank d = true
    · obtain ⟨blanks, hblanks, htext⟩ := ih
      refine ⟨d :: blanks, List.forall_mem_cons.mpr ⟨hd, hblanks⟩, ?_⟩
      rcases htext with rfl | ⟨c, rest, hc, rfl⟩
      · exact .inl rfl
      · exact .inr ⟨c, rest, hc, rfl⟩
    · exact ⟨[], List.forall_mem_nil _, .inr ⟨d, text, by simpa using hd, rfl⟩⟩

namespace Cursor

/-- Behind nothing but blanks a text ends. -/
theorem next_end {blanks : List Char} (offset : Nat) {modes settled : Modes}
    (hblanks : ∀ d ∈ blanks, Text.isBlank d = true)
    (hsettle : Modes.settle blanks modes.current modes.outer = settled) :
    Cursor.next ⟨blanks, offset, modes⟩ =
      match settled.current.expected? with
      | none =>
        .ok (⟨.endOfQuery, offset + blanks.length, decide (0 < blanks.length)⟩,
          ⟨[], offset + blanks.length, settled⟩)
      | some expected => .error (.unexpectedEnd expected (offset + blanks.length)) := by
  have hdrop : blanks.dropWhile Text.isBlank = [] := List.dropWhile_eq_nil_iff.mpr hblanks
  unfold Cursor.next
  dsimp only
  rewrite [hdrop, hsettle, List.length_nil, Nat.sub_zero]
  rfl

/-! ### Steps -/

/-- The outcome of taking a token. -/
inductive Advances (cursor : Cursor) : Except ParseError (Token × Cursor) → Prop where
  /-- The text ends, and it may. -/
  | ends : (∀ d ∈ cursor.rest, Text.isBlank d = true) → cursor.settled.current.expected? = none →
      Advances cursor (.ok (⟨.endOfQuery, cursor.offset + cursor.rest.length,
        decide (0 < cursor.rest.length)⟩,
          ⟨[], cursor.offset + cursor.rest.length, cursor.settled⟩))
  /-- The text ends where it has to go on. -/
  | misses {expected : Expected} : (∀ d ∈ cursor.rest, Text.isBlank d = true) →
      cursor.settled.current.expected? = some expected →
      Advances cursor (.error (.unexpectedEnd expected (cursor.offset + cursor.rest.length)))
  /-- A lexeme stands behind the blanks. -/
  | takes {blanks : List Char} {c : Char} {text behind : List Char} {lexeme : Lexeme}
      {modes : Modes} : (∀ d ∈ blanks, Text.isBlank d = true) → Text.isBlank c = false →
      cursor.rest = blanks ++ c :: text →
      scan cursor.settled (cursor.offset + blanks.length) c text = .ok (lexeme, behind, modes) →
      Advances cursor (.ok (⟨lexeme, cursor.offset + blanks.length, decide (0 < blanks.length)⟩,
        ⟨behind, cursor.offset + blanks.length + (text.length + 1 - behind.length), modes⟩))
  /-- No lexeme stands behind the blanks. -/
  | fails {blanks : List Char} {c : Char} {text : List Char} {error : ParseError} :
      (∀ d ∈ blanks, Text.isBlank d = true) → Text.isBlank c = false →
      cursor.rest = blanks ++ c :: text →
      scan cursor.settled (cursor.offset + blanks.length) c text = .error error →
      Advances cursor (.error error)

/-- The outcome of the lexer is one of those that taking a token can have. -/
theorem advances (cursor : Cursor) : cursor.Advances cursor.next := by
  obtain ⟨rest, offset, modes⟩ := cursor
  obtain ⟨blanks, hblanks, rfl | ⟨c, text, hc, rfl⟩⟩ := exists_blanks rest
  · rw [next_end offset hblanks rfl]
    cases hexpected : (Modes.settle rest modes.current modes.outer).current.expected? with
    | none => exact .ends hblanks hexpected
    | some expected => exact .misses hblanks hexpected
  · rw [next_blanks offset hblanks hc rfl]
    cases hscan : scan (Modes.settle (blanks ++ c :: text) modes.current modes.outer)
        (offset + blanks.length) c text with
    | ok scanned => exact .takes hblanks hc rfl hscan
    | error error => exact .fails hblanks hc rfl hscan

/-- **What the lexer gives is the outcome of taking a token.** -/
theorem next_eq_iff {cursor : Cursor} {outcome : Except ParseError (Token × Cursor)} :
    cursor.next = outcome ↔ cursor.Advances outcome := by
  refine ⟨fun h => h ▸ cursor.advances, fun h => ?_⟩
  obtain ⟨rest, offset, modes⟩ := cursor
  cases h with
  | ends hblanks hexpected =>
    have hexpected : (Modes.settle rest modes.current modes.outer).current.expected? = none :=
      hexpected
    rw [next_end offset hblanks rfl, hexpected]
    rfl
  | misses hblanks hexpected =>
    have hexpected : (Modes.settle rest modes.current modes.outer).current.expected? = some _ :=
      hexpected
    rw [next_end offset hblanks rfl, hexpected]
  | takes hblanks hc hrest hscan | fails hblanks hc hrest hscan =>
    obtain rfl : rest = _ := hrest
    rw [next_blanks offset hblanks hc rfl]
    unfold settled at hscan
    dsimp only at hscan
    rw [hscan]

end Cursor

/-! ### Cursors in a text -/

/-- The cursor stands in the text. -/
def Cursor.IsIn (cursor : Cursor) (text : List Char) : Prop :=
  ∃ front, text = front ++ cursor.rest ∧ cursor.offset = front.length

/-- The lexer starts in the text. -/
theorem Cursor.isIn_start (text : List Char) : (Cursor.start text).IsIn text := ⟨[], rfl, rfl⟩

/-- What is left and what was taken make up the text. -/
theorem Cursor.IsIn.length {cursor : Cursor} {text : List Char} (h : cursor.IsIn text) :
    cursor.offset + cursor.rest.length = text.length := by
  obtain ⟨front, rfl, hoffset⟩ := h
  rw [hoffset, List.length_append]

/-- The character behind the blanks at a cursor. -/
theorem Cursor.IsIn.getElem? {cursor : Cursor} {text : List Char} (h : cursor.IsIn text)
    {blanks behind : List Char} {c : Char} (hrest : cursor.rest = blanks ++ c :: behind) :
    text[cursor.offset + blanks.length]? = some c := by
  obtain ⟨front, rfl, hoffset⟩ := h
  have hplace : cursor.offset + blanks.length = (front ++ blanks).length := by
    rw [hoffset, List.length_append]
  rw [hrest, ← List.append_assoc, hplace, List.getElem?_append_right (Nat.le_refl _), Nat.sub_self]
  rfl

/-- A token leads to a place in the text. -/
theorem Cursor.IsIn.next {cursor behind : Cursor} {token : Token} {text : List Char}
    (h : cursor.IsIn text) (hnext : cursor.next = .ok (token, behind)) : behind.IsIn text := by
  obtain ⟨front, rfl, hoffset⟩ := h
  cases Cursor.next_eq_iff.mp hnext with
  | ends hblanks hexpected =>
    exact ⟨front ++ cursor.rest, by simp, by rw [List.length_append, hoffset]⟩
  | @takes blanks c text rest lexeme modes hblanks hc hrest hscan =>
    obtain ⟨taken, rfl⟩ := scan_suffix hscan
    refine ⟨front ++ blanks ++ c :: taken, by simp [hrest], ?_⟩
    simp only [List.length_append, List.length_cons, hoffset]
    omega

/-! ### Tokens in a text -/

/-- The token stands in the text: the end of the query at its end, and any other token where there
is a character that is no blank, the slash of a regular expression. -/
inductive Token.StandsIn (text : List Char) (token : Token) : Prop where
  /-- The end of the query. -/
  | ends : token.lexeme = .endOfQuery → token.offset = text.length → StandsIn text token
  /-- Any other token. -/
  | begins {c : Char} : token.lexeme ≠ .endOfQuery → text[token.offset]? = some c →
      Text.isBlank c = false → (∀ source flags, token.lexeme = .pattern source flags → c = '/') →
      StandsIn text token

/-- A regular expression begins with its slash. -/
theorem eq_slash_of_scan {modes modes' : Modes} {offset : Nat} {c : Char}
    {rest behind : List Char} {source flags : String}
    (h : scan modes offset c rest = .ok (.pattern source flags, behind, modes')) : c = '/' := by
  cases scans_of_scan h with
  | scalarValue _ _ _ hscalar | element _ _ hscalar =>
    cases hscalar with
    | pattern hslash => exact hslash

/-- A token stands in the text that it was taken from. -/
theorem Cursor.IsIn.standsIn {cursor behind : Cursor} {token : Token} {text : List Char}
    (h : cursor.IsIn text) (hnext : cursor.next = .ok (token, behind)) : token.StandsIn text := by
  cases Cursor.next_eq_iff.mp hnext with
  | ends hblanks hexpected => exact .ends rfl h.length
  | takes hblanks hc hrest hscan =>
    refine .begins ?_ (h.getElem? hrest) hc ?_
    · rintro rfl
      cases after?_of_scan hscan
    · rintro source flags rfl
      exact eq_slash_of_scan hscan

/-- **The tokens of a text stand in it.** -/
theorem Cursor.IsIn.standsIn_of_tokensFrom {cursor : Cursor} {text : List Char}
    {tokens : List Token} (h : cursor.IsIn text) (htokens : tokensFrom cursor = .ok tokens) :
    ∀ token ∈ tokens, token.StandsIn text := by
  rw [tokensFrom_eq_ok_iff_cuts] at htokens
  induction htokens with
  | last hnext _ => exact List.forall_mem_singleton.mpr (h.standsIn hnext)
  | more hnext _ _ ih =>
    exact List.forall_mem_cons.mpr ⟨h.standsIn hnext, ih (h.next hnext)⟩

/-! ### The places of tokens in a row -/

namespace Cursor

variable {cursor behind : Cursor} {token : Token} {tokens : List Token}

/-- The offset of a token lies between those of the cursors before and behind it. -/
theorem offset_le_of_next (h : cursor.next = .ok (token, behind)) :
    cursor.offset ≤ token.offset ∧ token.offset ≤ behind.offset := by
  cases next_eq_iff.mp h with
  | ends => exact ⟨Nat.le_add_right _ _, Nat.le_refl _⟩
  | takes => exact ⟨Nat.le_add_right _ _, Nat.le_add_right _ _⟩

/-- Any token but the end of the query takes up room: the lexer goes on behind its offset. -/
theorem offset_lt_of_next (h : cursor.next = .ok (token, behind))
    (hlast : token.lexeme ≠ .endOfQuery) : token.offset < behind.offset := by
  cases next_eq_iff.mp h with
  | ends => exact absurd rfl hlast
  | takes _ _ _ hscan =>
    have hlength := (scan_suffix hscan).length_le
    dsimp only
    omega

/-- A run leads on, past the places of its tokens. -/
theorem Run.offset_lt (h : cursor.Run tokens behind) :
    cursor.offset ≤ behind.offset ∧ ∀ t ∈ tokens, t.offset < behind.offset := by
  induction h with
  | nil => exact ⟨Nat.le_refl _, List.forall_mem_nil _⟩
  | cons hnext hlast _ ih =>
    have hle := offset_le_of_next hnext
    have hlt := offset_lt_of_next hnext hlast
    exact ⟨by omega, List.forall_mem_cons.mpr ⟨by omega, ih.2⟩⟩

/-- **Each token of a text stands behind the one before it.** -/
theorem ordered_of_tokensFrom (h : tokensFrom cursor = .ok tokens) :
    (∀ t ∈ tokens, cursor.offset ≤ t.offset) ∧ tokens.Pairwise (·.offset < ·.offset) := by
  rw [tokensFrom_eq_ok_iff_cuts] at h
  induction h with
  | last hnext _ =>
    exact ⟨List.forall_mem_singleton.mpr (offset_le_of_next hnext).1, List.pairwise_singleton _ _⟩
  | more hnext hlast _ ih =>
    obtain ⟨hothers, hordered⟩ := ih
    have hfirst := (offset_le_of_next hnext).1
    have hafter := fun t ht => Nat.lt_of_lt_of_le (offset_lt_of_next hnext hlast) (hothers t ht)
    refine ⟨List.forall_mem_cons.mpr ⟨hfirst, fun t ht => ?_⟩, .cons hafter hordered⟩
    exact Nat.le_trans hfirst (Nat.le_of_lt (hafter t ht))

/-- A run stays in the text. -/
theorem IsIn.run {text : List Char} (h : cursor.IsIn text) (hrun : cursor.Run tokens behind) :
    behind.IsIn text := by
  induction hrun with
  | nil => exact h
  | cons hnext _ _ ih => exact ih (h.next hnext)

end Cursor

variable {cursor : Cursor} {token : Token} {tokens : List Token}

/-- The lexer comes to each of the tokens of a text. -/
theorem exists_run_of_mem (h : tokensFrom cursor = .ok tokens) (hmem : token ∈ tokens) :
    ∃ before after middle, tokens = before ++ token :: after ∧ cursor.Run before middle ∧
      tokensFrom middle = .ok (token :: after) := by
  simp only [tokensFrom_eq_ok_iff_cuts] at h ⊢
  induction h with
  | last hnext hlast =>
    obtain rfl := List.mem_singleton.mp hmem
    exact ⟨[], [], _, rfl, .nil _, .last hnext hlast⟩
  | @more cursor next first others hnext hlast hrest ih =>
    rcases List.mem_cons.mp hmem with rfl | hothers
    · exact ⟨[], others, cursor, rfl, .nil cursor, .more hnext hlast hrest⟩
    · obtain ⟨before, after, middle, rfl, hrun, hmiddle⟩ := ih hothers
      exact ⟨first :: before, after, middle, rfl, .cons hnext hlast hrun, hmiddle⟩

end TreeQuery
