import TreeQuery.Proofs.Query.Tokens

/-!
# Text that is read as pieces

A text is read as a row of pieces when the lexer, started in front of it, runs to its end and the
tokens spell the pieces. A text is misread when whatever tokens come out of it do not even resemble
the pieces. **Which of the two holds is settled piece by piece**: text in front that is read leaves
the question to the text behind it, and text in front that is misread settles it.

## Main definitions and results

* `Reads`, `Misreads` — a text is read, or misread, as pieces.
* `Settles` — which of the two it is.
* `Settles.append`: texts in a row.
-/

namespace TreeQuery

/-! ### Resemblance -/

/-- Parts are alike when they are the same, and values already when they are equal. -/
def Part.Alike : Part → Part → Prop
  | scalar a, scalar b => a.beq b = true
  | a, b => a = b

/-- The tokens begin with tokens for parts that are alike to those of the pieces. -/
def Resembles : List Token → List Piece → Prop
  | _, [] => True
  | [], _ :: _ => False
  | token :: tokens, piece :: pieces =>
    (∃ part, token.lexeme.part? = some part ∧ part.Alike piece.part) ∧ Resembles tokens pieces

theorem Resembles.nil (tokens : List Token) : Resembles tokens [] := by
  cases tokens <;> trivial

/-- Tokens that begin like pieces begin like the first ones of them. -/
theorem Resembles.left {tokens : List Token} {pieces more : List Piece}
    (h : Resembles tokens (pieces ++ more)) : Resembles tokens pieces := by
  induction pieces generalizing tokens with
  | nil => exact .nil tokens
  | cons piece pieces ih =>
    cases tokens with
    | nil => exact h
    | cons token tokens => exact ⟨h.1, ih h.2⟩

/-- Behind tokens for the first pieces, what is left begins like the other ones. -/
theorem Resembles.right {tokens rest : List Token} {pieces spelled more : List Piece}
    (hspells : Spells tokens spelled rest) (hlength : spelled.length = pieces.length)
    (h : Resembles tokens (pieces ++ more)) : Resembles rest more := by
  induction hspells generalizing pieces with
  | nil =>
    obtain rfl : pieces = [] := List.eq_nil_of_length_eq_zero hlength.symm
    exact h
  | cons _ _ ih =>
    obtain ⟨piece, pieces, rfl⟩ := List.exists_cons_of_length_eq_add_one hlength.symm
    exact ih (by simpa using hlength) h.2

/-! ### Reading and misreading -/

/-- The text is read as the pieces, up to `rest` and the modes behind. -/
def Reads (text : List Char) (modes : Modes) (pieces : List Piece) (rest : List Char)
    (behind : Modes) : Prop :=
  ∀ offset, ∃ tokens offset',
    Cursor.Run ⟨text ++ rest, offset, modes⟩ tokens ⟨rest, offset', behind⟩ ∧
      Spells tokens pieces []

/-- No tokens of the text and `rest` behind it resemble the pieces. -/
def Misreads (text : List Char) (modes : Modes) (pieces : List Piece) (rest : List Char) : Prop :=
  ∀ offset tokens, tokensFrom ⟨text ++ rest, offset, modes⟩ = .ok tokens → ¬ Resembles tokens pieces

/-- The text is read as the pieces if `legible` says so, and misread if not. -/
structure Settles (legible : Bool) (text : List Char) (modes : Modes) (pieces : List Piece)
    (rest : List Char) (behind : Modes) : Prop where
  /-- Legible text is read. -/
  reads : legible = true → Reads text modes pieces rest behind
  /-- Other text is misread. -/
  misreads : legible = false → Misreads text modes pieces rest

variable {text text' rest : List Char} {modes modes' modes'' : Modes} {pieces pieces' : List Piece}

theorem Reads.nil : Reads [] modes [] rest modes := fun offset => ⟨[], offset, .nil _, .nil _⟩

/-- **Texts that are read one behind the other are read as their pieces in a row.** -/
theorem Reads.append (h : Reads text modes pieces (text' ++ rest) modes')
    (h' : Reads text' modes' pieces' rest modes'') :
    Reads (text ++ text') modes (pieces ++ pieces') rest modes'' := by
  intro offset
  obtain ⟨tokens, offset', hrun, hspells⟩ := h offset
  obtain ⟨tokens', offset'', hrun', hspells'⟩ := h' offset'
  rw [List.append_assoc]
  exact ⟨tokens ++ tokens', offset'', hrun.append hrun',
    (hspells.with_rest tokens').append hspells'⟩

/-- A text that is misread is misread with more text behind it. -/
theorem Misreads.append_right (h : Misreads text modes pieces (text' ++ rest)) :
    Misreads (text ++ text') modes (pieces ++ pieces') rest := by
  intro offset tokens htokens hresembles
  rw [List.append_assoc] at htokens
  exact h offset tokens htokens hresembles.left

/-- A text that is misread is misread behind one that is read. -/
theorem Reads.misreads_append (h : Reads text modes pieces (text' ++ rest) modes')
    (h' : Misreads text' modes' pieces' rest) :
    Misreads (text ++ text') modes (pieces ++ pieces') rest := by
  intro offset tokens htokens hresembles
  obtain ⟨first, offset', hrun, hspells⟩ := h offset
  rw [List.append_assoc] at htokens
  obtain ⟨others, hothers, rfl⟩ := (tokensFrom_of_run hrun).mp htokens
  exact h' offset' others hothers (.right (hspells.with_rest others) rfl hresembles)

/-- **Texts in a row**: the first text that is misread settles the question. -/
theorem Settles.append {legible legible' : Bool}
    (h : Settles legible text modes pieces (text' ++ rest) modes')
    (h' : Settles legible' text' modes' pieces' rest modes'') :
    Settles (legible && legible') (text ++ text') modes (pieces ++ pieces') rest modes'' := by
  refine ⟨fun hgood => ?_, fun hbad => ?_⟩
  · obtain ⟨hl, hl'⟩ := Bool.and_eq_true_iff.mp hgood
    exact (h.reads hl).append (h'.reads hl')
  · cases hl : legible with
    | false => exact (h.misreads hl).append_right
    | true =>
      rw [hl, Bool.true_and] at hbad
      exact (h.reads hl).misreads_append (h'.misreads hbad)

/-- A text that is always read is settled. -/
theorem Reads.settles (h : Reads text modes pieces rest modes') :
    Settles true text modes pieces rest modes' :=
  ⟨fun _ => h, fun h => by cases h⟩

/-! ### Single tokens -/

/-- Outside of a selector used as a value, no mode is left without a token. -/
theorem Modes.settle_of_ne {mode : Mode} (h : mode ≠ .valueSelector) (text : List Char)
    (outer : List Mode) : Modes.settle text mode outer = ⟨mode, outer⟩ := by
  cases mode with
  | valueSelector => exact absurd rfl h
  | _ => rw [settle]; simp

/-- In front of what goes on with a selector no mode is left. -/
theorem Modes.settle_continues {text : List Char} (h : continuesValue text = true) (mode : Mode)
    (outer : List Mode) : Modes.settle text mode outer = ⟨mode, outer⟩ := by
  cases mode with
  | valueSelector =>
    cases outer with
    | nil => rw [settle]; simp
    | cons mode outer => rw [settle, if_pos h]
  | _ => rw [settle]; simp

/-- In front of anything else a selector used as a value is left. -/
theorem Modes.settle_ends {text : List Char} (h : continuesValue text = false) (mode : Mode)
    (outer : List Mode) :
    Modes.settle text .valueSelector (mode :: outer) = Modes.settle text mode outer := by
  rw [settle, if_neg (by simp [h])]

/-- The next token behind blanks is the lexeme that begins with the character behind them. -/
theorem Cursor.next_blanks {blanks : List Char} {c : Char} {text : List Char} (offset : Nat)
    {settled : Modes} (hblanks : ∀ d ∈ blanks, Text.isBlank d = true)
    (hblank : Text.isBlank c = false)
    (hsettle : Modes.settle (blanks ++ c :: text) modes.current modes.outer = settled) :
    Cursor.next ⟨blanks ++ c :: text, offset, modes⟩ =
      match scan settled (offset + blanks.length) c text with
      | .ok (lexeme, behind, modes) =>
        .ok (⟨lexeme, offset + blanks.length, decide (0 < blanks.length)⟩,
          ⟨behind, offset + blanks.length + (text.length + 1 - behind.length), modes⟩)
      | .error error => .error error := by
  have hdrop : (blanks ++ c :: text).dropWhile Text.isBlank = c :: text := by
    rw [List.dropWhile_append_of_pos hblanks, List.dropWhile_cons, if_neg (by simp [hblank])]
  have hlength : (blanks ++ c :: text).length - (c :: text).length = blanks.length := by
    rw [List.length_append, Nat.add_sub_cancel]
  unfold Cursor.next
  dsimp only
  rewrite [hdrop, hsettle, hlength]
  rfl

/-- With no blank in between, the next token is the lexeme that begins with the next character. -/
theorem Cursor.next_cons {c : Char} {text : List Char} (offset : Nat) {settled : Modes}
    (hblank : Text.isBlank c = false)
    (hsettle : Modes.settle (c :: text) modes.current modes.outer = settled) :
    Cursor.next ⟨c :: text, offset, modes⟩ =
      match scan settled offset c text with
      | .ok (lexeme, behind, modes) =>
        .ok (⟨lexeme, offset, false⟩, ⟨behind, offset + (text.length + 1 - behind.length), modes⟩)
      | .error error => .error error :=
  Cursor.next_blanks offset (List.forall_mem_nil _) hblank hsettle

/-- A blank only says of the next token that there is one before it. -/
theorem Cursor.next_blank {c : Char} {text : List Char} {offset : Nat}
    (hblank : Text.isBlank c = true) (hmode : modes.current ≠ .valueSelector) :
    Cursor.next ⟨c :: text, offset, modes⟩ =
      (Cursor.next ⟨text, offset + 1, modes⟩).map fun (token, behind) =>
        ({ token with spaced := true }, behind) := by
  have hdrop : (c :: text).dropWhile Text.isBlank = text.dropWhile Text.isBlank := by
    rw [List.dropWhile_cons, if_pos hblank]
  have hlength : (text.dropWhile Text.isBlank).length ≤ text.length :=
    (List.dropWhile_suffix Text.isBlank).length_le
  unfold Cursor.next
  dsimp only
  rw [hdrop, Modes.settle_of_ne hmode, Modes.settle_of_ne hmode, List.length_cons]
  have hoffset : offset + (text.length + 1 - (text.dropWhile Text.isBlank).length) =
      offset + 1 + (text.length - (text.dropWhile Text.isBlank).length) := by omega
  have hspaced : decide (0 < text.length + 1 - (text.dropWhile Text.isBlank).length) = true :=
    decide_eq_true (by omega)
  rw [hoffset, hspaced]
  cases text.dropWhile Text.isBlank with
  | nil =>
    dsimp only
    cases modes.current.expected? <;> rfl
  | cons d behind =>
    dsimp only
    generalize scan _ _ d behind = scanned
    cases scanned <;> rfl

/-- A text of one token. -/
theorem Reads.token {c : Char} {text : List Char} (lexeme : Lexeme) {part : Part}
    {spacing : Spacing} (settled : Modes) (hblank : Text.isBlank c = false)
    (hsettle : Modes.settle (c :: (text ++ rest)) modes.current modes.outer = settled)
    (hscan : ∀ offset, scan settled offset c (text ++ rest) = .ok (lexeme, rest, modes'))
    (hpart : lexeme.part? = some part) (hspacing : spacing.admits false = true) :
    Reads (c :: text) modes [⟨part, spacing⟩] rest modes' := by
  intro offset
  have hnext := Cursor.next_cons offset hblank hsettle
  rw [hscan] at hnext
  have hlast : lexeme ≠ .endOfQuery := by
    rintro rfl
    cases hpart
  exact ⟨_, _, .cons hnext hlast (.nil _), .single ⟨hpart, hspacing⟩⟩

/-- A text whose first token is for another part. -/
theorem Misreads.token {c : Char} {text : List Char} {piece : Piece} (settled : Modes)
    (hblank : Text.isBlank c = false)
    (hsettle : Modes.settle (c :: (text ++ rest)) modes.current modes.outer = settled)
    (hscan : ∀ offset lexeme behind modes', scan settled offset c (text ++ rest) =
      .ok (lexeme, behind, modes') → ∀ part, lexeme.part? = some part → ¬ part.Alike piece.part) :
    Misreads (c :: text) modes (piece :: pieces) rest := by
  intro offset tokens htokens hresembles
  obtain ⟨token, behind, hnext, hcases⟩ := tokensFrom_eq_ok_iff.mp htokens
  have hfirst : ∃ others, tokens = token :: others := by
    split at hcases
    · exact ⟨[], hcases⟩
    · obtain ⟨others, -, hothers⟩ := hcases
      exact ⟨others, hothers⟩
  obtain ⟨others, rfl⟩ := hfirst
  obtain ⟨⟨part, hpart, halike⟩, -⟩ := hresembles
  rw [List.cons_append, Cursor.next_cons offset hblank hsettle] at hnext
  split at hnext
  · rename_i hscanned
    cases hnext
    exact hscan _ _ _ _ hscanned part hpart halike
  · cases hnext

/-! ### Blanks -/

/-- A blank before a text that is read sets its first piece apart. -/
theorem Reads.blank {c : Char} {part : Part} {spacing : Spacing}
    (h : Reads text modes (⟨part, .free⟩ :: pieces) rest modes') (hblank : Text.isBlank c = true)
    (hmode : modes.current ≠ .valueSelector) (hspacing : spacing.admits true = true) :
    Reads (c :: text) modes (⟨part, spacing⟩ :: pieces) rest modes' := by
  intro offset
  obtain ⟨tokens, offset', hrun, hspells⟩ := h (offset + 1)
  obtain ⟨token, others, rfl, hfits, hothers⟩ := Spells.cons_iff.mp hspells
  rcases hrun with _ | ⟨hnext, hlast, hrun⟩
  refine ⟨{ token with spaced := true } :: others, offset', .cons ?_ hlast hrun,
    .cons ⟨hfits.part, hspacing⟩ hothers⟩
  rw [List.cons_append, Cursor.next_blank hblank hmode, hnext]
  rfl

/-- A blank before a text that is misread does not help. -/
theorem Misreads.blank {c : Char} (h : Misreads text modes pieces rest)
    (hblank : Text.isBlank c = true) (hmode : modes.current ≠ .valueSelector) :
    Misreads (c :: text) modes pieces rest := by
  intro offset tokens htokens hresembles
  obtain ⟨token, behind, hnext, hcases⟩ := tokensFrom_eq_ok_iff.mp htokens
  rw [List.cons_append, Cursor.next_blank hblank hmode] at hnext
  cases hunspaced : Cursor.next ⟨text ++ rest, offset + 1, modes⟩ with
  | error error =>
    rw [hunspaced] at hnext
    cases hnext
  | ok found =>
    obtain ⟨token', behind'⟩ := found
    rw [hunspaced] at hnext
    cases hnext
    have htokens' : ∃ first others, tokens = { first with spaced := true } :: others ∧
        tokensFrom ⟨text ++ rest, offset + 1, modes⟩ = .ok (first :: others) := by
      split at hcases
      · rename_i hlast
        refine ⟨token', [], hcases, tokensFrom_eq_ok_iff.mpr ⟨_, _, hunspaced, ?_⟩⟩
        rw [if_pos hlast]
      · rename_i hlast
        obtain ⟨others, hothers, heq⟩ := hcases
        refine ⟨token', others, heq, tokensFrom_eq_ok_iff.mpr ⟨_, _, hunspaced, ?_⟩⟩
        rw [if_neg hlast]
        exact ⟨others, hothers, rfl⟩
    obtain ⟨first, others, rfl, hfirst⟩ := htokens'
    refine h (offset + 1) _ hfirst ?_
    cases pieces with
    | nil => exact .nil _
    | cons piece pieces => exact hresembles

/-- A blank before a text sets its first piece apart, and it is of no account for whether the text
is read. -/
theorem Settles.blank {legible : Bool} {c : Char} {part : Part} {spacing : Spacing}
    (h : Settles legible text modes (⟨part, .free⟩ :: pieces) rest modes')
    (hblank : Text.isBlank c = true) (hmode : modes.current ≠ .valueSelector)
    (hspacing : spacing.admits true = true) :
    Settles legible (c :: text) modes (⟨part, spacing⟩ :: pieces) rest modes' := by
  refine ⟨fun hl => (h.reads hl).blank hblank hmode hspacing, fun hl => ?_⟩
  have hmisreads := (h.misreads hl).blank hblank hmode
  intro offset tokens htokens hresembles
  refine hmisreads offset tokens htokens ?_
  cases tokens <;> exact hresembles

end TreeQuery
