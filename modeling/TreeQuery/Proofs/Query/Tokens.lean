import TreeQuery.Proofs.Query.Scalars
import TreeQuery.Proofs.Query.Spans

/-!
# The tokens of a text

Cutting a text into tokens is a run of the lexer from cursor to cursor. Every token of a run stands
for a part as it is written, so that what is read from the tokens of a text is grammatical.

## Main definitions and results

* `Cursor.Run` — the tokens from one cursor to another.
* `Cursor.Cuts` — the tokens from a cursor on.
* `tokensFrom_of_run`: the tokens from a cursor on begin with those of any run from there.
* `areWritten_tokensFrom`: **the tokens of a text stand for parts as they are written**.
-/

namespace TreeQuery

/-! ### Names -/

/-- What is taken for a name from where one begins is a kind. -/
theorem isKindName_takeWhile {c : Char} {rest : List Char} (h : isNameStart c = true) :
    isKindName (String.ofList ((c :: rest).takeWhile isNameChar)) = true := by
  rw [isKindName, String.toList_ofList, List.takeWhile_cons, if_pos (isNameChar_of_isNameStart h)]
  dsimp only
  rw [h, List.all_takeWhile, Bool.and_true]

/-- What is taken for a name from a text that begins as a name is a kind. -/
theorem isKindName_of_head? {rest : List Char} (h : rest.head?.any isNameStart = true) :
    isKindName (String.ofList (rest.takeWhile isNameChar)) = true := by
  cases rest with
  | nil => cases h
  | cons d rest => exact isKindName_takeWhile h

/-- A key that is read has characters of a path. -/
theorem isPathChar_of_readKey {text key behind : List Char} (h : readKey text = (key, behind)) :
    ∀ c ∈ key, isPathChar c = true := by
  induction text generalizing key behind with
  | nil =>
    obtain ⟨rfl, -⟩ := Prod.mk.inj h
    simp
  | cons c rest ih =>
    unfold readKey at h
    split at h
    · obtain ⟨rfl, -⟩ := Prod.mk.inj h
      simp
    · rename_i hstop
      obtain ⟨rfl, -⟩ := Prod.mk.inj h
      simp only [Bool.or_eq_true, not_or, Bool.not_eq_true, Bool.not_eq_false'] at hstop
      intro d hd
      rcases List.mem_cons.mp hd with rfl | hd
      · exact hstop.1
      · exact ih rfl d hd

/-! ### Parts as they are written -/

/-- **A lexeme stands for a part as it is written**, in every mode. -/
theorem isWritten_of_scan {modes modes' : Modes} {offset : Nat} {c : Char}
    {rest behind : List Char} {lexeme : Lexeme}
    (h : scan modes offset c rest = .ok (lexeme, behind, modes')) :
    ∀ part ∈ lexeme.part?, part.isWritten = true := by
  cases scans_of_scan h with
  | kind _ _ hstart | kindValue _ _ hstart =>
    rintro _ ⟨⟩
    exact isKindName_of_head? hstart
  | scope _ hstart =>
    rintro _ ⟨⟩
    rw [Part.isWritten, String.toList_ofList]
    exact KeyPath.isScope_ofChars hstart (isPathChar_of_isNameStart hstart)
      (List.all_eq_true.mp List.all_takeWhile)
  | key _ hread =>
    rintro _ ⟨⟩
    rw [Part.isWritten, String.toList_ofList]
    exact KeyPath.isWritten_ofChars (isPathChar_of_readKey hread)
  | scalarValue _ _ _ hscalar | element _ _ hscalar => exact hscalar.isWritten
  | _ =>
    rintro _ ⟨⟩
    rfl

/-- **The token that the lexer takes stands for a part that is written.** -/
theorem isWritten_of_next {cursor behind : Cursor} {token : Token}
    (h : cursor.next = .ok (token, behind)) :
    ∀ part ∈ token.lexeme.part?, part.isWritten = true := by
  unfold Cursor.next at h
  dsimp only at h
  split at h
  · split at h <;> cases h
    rintro _ ⟨⟩
  · split at h <;> cases h
    rename_i hscan
    exact isWritten_of_scan hscan

/-! ### Runs -/

/-- The tokens from one cursor to another, without the end of the query. -/
inductive Cursor.Run : Cursor → List Token → Cursor → Prop where
  /-- No token. -/
  | nil (cursor : Cursor) : Run cursor [] cursor
  /-- One more token in front. -/
  | cons {cursor next behind : Cursor} {token : Token} {tokens : List Token} :
      cursor.next = .ok (token, next) → token.lexeme ≠ .endOfQuery → Run next tokens behind →
      Run cursor (token :: tokens) behind

/-- Runs may follow each other. -/
theorem Cursor.Run.append {cursor middle behind : Cursor} {tokens more : List Token}
    (h : Run cursor tokens middle) (h' : Run middle more behind) :
    Run cursor (tokens ++ more) behind := by
  induction h with
  | nil => exact h'
  | cons hnext hlast _ ih => exact .cons hnext hlast (ih h')

/-- The tokens from a cursor on, one call of the lexer at a time. -/
theorem tokensFrom_eq (cursor : Cursor) :
    tokensFrom cursor =
      match cursor.next with
      | .error error => .error error
      | .ok (token, behind) =>
        if token.lexeme = .endOfQuery then .ok [token]
        else (tokensFrom behind).map (token :: ·) := by
  fun_induction tokensFrom cursor with
  | case1 cursor error hnext => simp only [hnext]
  | case2 cursor token behind hnext hlast => simp only [hnext, if_pos hlast]
  | case3 cursor token behind hnext hlast _ tokens hrest
  | case4 cursor token behind hnext hlast _ error hrest =>
    simp only [hnext, if_neg hlast, hrest]
    rfl

/-- The tokens from a cursor on, one token at a time. -/
theorem tokensFrom_eq_ok_iff {cursor : Cursor} {tokens : List Token} :
    tokensFrom cursor = .ok tokens ↔
      ∃ token behind, cursor.next = .ok (token, behind) ∧
        if token.lexeme = .endOfQuery then tokens = [token]
        else ∃ rest, tokensFrom behind = .ok rest ∧ tokens = token :: rest := by
  rw [tokensFrom_eq]
  cases hnext : cursor.next with
  | error error => simp
  | ok found =>
    obtain ⟨token, behind⟩ := found
    by_cases hlast : token.lexeme = .endOfQuery
    · simp [hlast, eq_comm]
    · cases hrest : tokensFrom behind with
      | error error => simp [hlast, hrest, Except.map]
      | ok rest =>
        simp only [hlast, hrest, Except.map]
        simpa [hlast, hrest] using eq_comm

/-- The tokens from a cursor on, the end of the query being the last one. -/
inductive Cursor.Cuts : Cursor → List Token → Prop where
  /-- The end of the query. -/
  | last {cursor behind : Cursor} {token : Token} :
      cursor.next = .ok (token, behind) → token.lexeme = .endOfQuery → Cuts cursor [token]
  /-- One more token in front. -/
  | more {cursor next : Cursor} {token : Token} {tokens : List Token} :
      cursor.next = .ok (token, next) → token.lexeme ≠ .endOfQuery → Cuts next tokens →
      Cuts cursor (token :: tokens)

/-- The tokens from a cursor on are those that the lexer takes one after the other. -/
theorem tokensFrom_eq_ok_iff_cuts {cursor : Cursor} {tokens : List Token} :
    tokensFrom cursor = .ok tokens ↔ cursor.Cuts tokens := by
  constructor
  · intro h
    induction tokens generalizing cursor with
    | nil =>
      obtain ⟨token, behind, -, hcases⟩ := tokensFrom_eq_ok_iff.mp h
      split at hcases
      · cases hcases
      · obtain ⟨_, _, hcases⟩ := hcases
        cases hcases
    | cons first others ih =>
      obtain ⟨token, behind, hnext, hcases⟩ := tokensFrom_eq_ok_iff.mp h
      split at hcases
      · rename_i hlast
        obtain ⟨rfl, rfl⟩ := List.cons.inj hcases
        exact .last hnext hlast
      · rename_i hlast
        obtain ⟨rest, hrest, heq⟩ := hcases
        obtain ⟨rfl, rfl⟩ := List.cons.inj heq
        exact .more hnext hlast (ih hrest)
  · intro h
    induction h with
    | last hnext hlast => exact tokensFrom_eq_ok_iff.mpr ⟨_, _, hnext, (if_pos hlast).mpr rfl⟩
    | more hnext hlast _ ih =>
      exact tokensFrom_eq_ok_iff.mpr ⟨_, _, hnext, (if_neg hlast).mpr ⟨_, ih, rfl⟩⟩

/-- **The tokens from a cursor on begin with those of any run from there.** -/
theorem tokensFrom_of_run {cursor behind : Cursor} {tokens : List Token}
    (h : cursor.Run tokens behind) {all : List Token} :
    tokensFrom cursor = .ok all ↔ ∃ rest, tokensFrom behind = .ok rest ∧ all = tokens ++ rest := by
  induction h generalizing all with
  | nil => simp
  | cons hnext hlast _ ih =>
    rw [tokensFrom_eq_ok_iff]
    constructor
    · rintro ⟨token', next', hnext', hcases⟩
      obtain ⟨rfl, rfl⟩ := Prod.mk.inj (Except.ok.inj (hnext.symm.trans hnext'))
      rw [if_neg hlast] at hcases
      obtain ⟨rest, hrest, rfl⟩ := hcases
      obtain ⟨rest', hrest', rfl⟩ := ih.mp hrest
      exact ⟨rest', hrest', rfl⟩
    · rintro ⟨rest, hrest, rfl⟩
      refine ⟨_, _, hnext, ?_⟩
      rw [if_neg hlast]
      exact ⟨_, ih.mpr ⟨rest, hrest, rfl⟩, rfl⟩

/-- **The tokens of a text stand for parts as they are written.** -/
theorem areWritten_tokensFrom {cursor : Cursor} {tokens : List Token}
    (h : tokensFrom cursor = .ok tokens) : AreWritten tokens := by
  rw [tokensFrom_eq_ok_iff_cuts] at h
  induction h with
  | last hnext _ => exact fun t ht => List.mem_singleton.mp ht ▸ isWritten_of_next hnext
  | more hnext _ _ ih => exact List.forall_mem_cons.mpr ⟨isWritten_of_next hnext, ih⟩

end TreeQuery
