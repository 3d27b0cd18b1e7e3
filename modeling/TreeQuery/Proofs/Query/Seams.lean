import TreeQuery.Proofs.Query.Cursors
import TreeQuery.Proofs.Query.Places
import TreeQuery.Query.Token

/-!
# Text behind a text

The lexer looks beyond the lexeme that it takes, but not far: a blank, a comma or a closing
parenthesis stops every reader just as the end of the text does. So a text is cut into the same
tokens when such a **seam** and any other text follow it.

The modes around a run are another matter. Where the run nests, it leaves them alone, and **a run
that nests is the same on top of whatever modes**.

## Main definitions and results

* `Seam` — text that no reader reads on into.
* `scan_seam`: a lexeme is the same before a seam and on top of other modes.
* `Cursor.Nests.run_seam`: so is a run that nests.
-/

namespace TreeQuery

/-- Text that no reader reads on into. -/
def Seam (s : List Char) : Prop := ∀ c ∈ s.head?, Text.isBlank c = true ∨ c = ',' ∨ c = ')'

variable {s : List Char}

/-- No seam begins with a character of the class. -/
structure StopsAtSeams (p : Char → Bool) : Prop where
  /-- No blank is of the class. -/
  blank : ∀ c, Text.isBlank c = true → p c = false
  /-- The comma is not. -/
  comma : p ',' = false
  /-- Nor is the closing parenthesis. -/
  closeParen : p ')' = false

/-- A seam begins with no character of a class that stops at seams. -/
theorem Seam.stops (h : Seam s) {p : Char → Bool} (hp : StopsAtSeams p) :
    ∀ c ∈ s.head?, p c = false := by
  intro c hc
  rcases h c hc with hblank | rfl | rfl
  · exact hp.blank c hblank
  · exact hp.comma
  · exact hp.closeParen

/-- A part of the characters of paths. -/
theorem stopsAtSeams_of_isPathChar {p : Char → Bool} (hp : ∀ c, p c = true → isPathChar c = true) :
    StopsAtSeams p := by
  have hout : ∀ c, isPathChar c = false → p c = false := fun c hc =>
    Bool.eq_false_iff.mpr fun hpc => by simp [hp c hpc] at hc
  refine ⟨fun c hblank => hout c ?_, hout ',' (by decide), hout ')' (by decide)⟩
  refine Bool.eq_false_iff.mpr fun hpath => ?_
  simp [isBlank_eq_false_of_isPathChar hpath] at hblank

theorem stopsAtSeams_isPathChar : StopsAtSeams isPathChar :=
  stopsAtSeams_of_isPathChar fun _ hc => hc

theorem stopsAtSeams_isNameChar : StopsAtSeams isNameChar :=
  stopsAtSeams_of_isPathChar fun _ hc => isPathChar_of_isNameChar hc

theorem stopsAtSeams_isNameStart : StopsAtSeams isNameStart :=
  stopsAtSeams_of_isPathChar fun _ hc => isPathChar_of_isNameStart hc

theorem stopsAtSeams_isOperatorChar : StopsAtSeams isOperatorChar :=
  stopsAtSeams_isNameStart

theorem stopsAtSeams_isAlphabetic : StopsAtSeams Text.isAlphabetic :=
  stopsAtSeams_of_isPathChar fun c hc => isPathChar_of_isNameStart (by simp [isNameStart, hc])

theorem stopsAtSeams_isPatternFlag : StopsAtSeams isPatternFlag :=
  stopsAtSeams_of_isPathChar fun c hc => by
    simp only [isPatternFlag, Bool.or_eq_true, beq_iff_eq] at hc
    rcases hc with (rfl | rfl) | rfl <;> decide

/-- A single sign that is no part of a seam stops at seams. -/
theorem stopsAtSeams_sign {d : Char} (h : Text.isBlank d = false ∧ d ≠ ',' ∧ d ≠ ')') :
    StopsAtSeams (· == d) := by
  obtain ⟨hblank, hcomma, hparen⟩ := h
  refine ⟨fun c hc => beq_eq_false_iff_ne.mpr ?_, by simp [hcomma.symm], by simp [hparen.symm]⟩
  rintro rfl
  simp [hblank] at hc

/-- Behind a text, a seam does not bring a character to its front that no seam begins with. -/
theorem Seam.head?_append_eq (h : Seam s) {c : Char}
    (hc : Text.isBlank c = false ∧ c ≠ ',' ∧ c ≠ ')')
    (text : List Char) : (text ++ s).head? = some c ↔ text.head? = some c := by
  cases text with
  | nil =>
    refine ⟨fun hhead => ?_, fun hhead => by cases hhead⟩
    exact absurd (h.stops (stopsAtSeams_sign hc) c hhead) (by simp)
  | cons d text => rfl

/-! ### Readers -/

variable {text behind : List Char}

/-- A run of characters that stop at seams is the same with a seam behind the text. -/
theorem takeWhile_seam (h : Seam s) {p : Char → Bool} (hp : StopsAtSeams p) (text : List Char) :
    (text ++ s).takeWhile p = text.takeWhile p ∧
      (text ++ s).dropWhile p = text.dropWhile p ++ s := by
  have hstop := h.stops hp
  induction text with
  | nil =>
    cases s with
    | nil => exact ⟨rfl, rfl⟩
    | cons c s => simp [hstop c rfl]
  | cons d text ih =>
    rw [List.cons_append, List.takeWhile_cons, List.dropWhile_cons, List.takeWhile_cons,
      List.dropWhile_cons, ih.1, ih.2]
    split <;> exact ⟨rfl, rfl⟩

/-- A key is the same with a seam behind the text. -/
theorem readKey_seam (h : Seam s) (text : List Char) :
    readKey (text ++ s) = ((readKey text).1, (readKey text).2 ++ s) := by
  induction text with
  | nil =>
    cases s with
    | nil => rfl
    | cons c s => simp [readKey, h.stops stopsAtSeams_isPathChar c rfl]
  | cons c text ih =>
    have hequals : ((text ++ s).head? == some '=') = (text.head? == some '=') := by
      rw [Bool.eq_iff_iff, beq_iff_eq, beq_iff_eq, h.head?_append_eq (by decide)]
    rw [List.cons_append, readKey, readKey, hequals, ih]
    split <;> rfl

/-- A word is taken character by character, but for the two brackets that belong to it as one. -/
theorem readWord_cons {c : Char} {text : List Char} (h : c = '[' → text.head? ≠ some ']') :
    readWord (c :: text) =
      if endsWord c then ([], c :: text) else (c :: (readWord text).1, (readWord text).2) := by
  rw [readWord.eq_def]
  split
  · rename_i heq
    obtain ⟨rfl, rfl⟩ := List.cons.inj heq
    exact absurd rfl (h rfl)
  · rename_i heq
    obtain ⟨rfl, rfl⟩ := List.cons.inj heq
    rfl
  · rename_i heq
    cases heq

/-- A word is the same with a seam behind the text. -/
theorem readWord_seam (h : Seam s) (text : List Char) :
    readWord (text ++ s) = ((readWord text).1, (readWord text).2 ++ s) := by
  have hstep : ∀ {c : Char} {rest : List Char},
      (∀ behind, c = '[' → rest = ']' :: behind → False) →
        c = '[' → rest.head? ≠ some ']' ∧ (rest ++ s).head? ≠ some ']' := by
    intro c rest hpair hc
    rw [Ne, Ne, h.head?_append_eq (by decide), and_self]
    intro hhead
    obtain ⟨behind, hrest⟩ := List.head?_eq_some_iff.mp hhead
    exact hpair behind hc hrest
  fun_induction readWord text with
  | case1 rest word behind heq ih =>
    rw [heq] at ih
    simp [readWord, ih]
  | case2 c rest hpair hends =>
    rw [List.cons_append, readWord_cons fun hc => (hstep hpair hc).2, if_pos hends]
  | case3 c rest hpair hends word behind heq ih =>
    rw [heq] at ih
    rw [List.cons_append, readWord_cons fun hc => (hstep hpair hc).2, if_neg hends, ih]
  | case4 =>
    cases s with
    | nil => rfl
    | cons c s =>
      have hends : endsWord c = true := by
        rcases h c rfl with hblank | rfl | rfl
        · simp [endsWord, hblank]
        · decide
        · decide
      have hbracket : c ≠ '[' :=
        beq_eq_false_iff_ne.mp (h.stops (stopsAtSeams_sign (by decide)) c rfl)
      rw [List.nil_append, readWord_cons fun hc => absurd hc hbracket, if_pos hends]

/-- A quoted text ends with its quote, whatever follows. -/
theorem readQuoted_append {closing : Char} {value : List Char}
    (h : readQuoted closing text = some (value, behind)) (s : List Char) :
    readQuoted closing (text ++ s) = some (value, behind ++ s) := by
  fun_induction readQuoted closing text generalizing value with
  | case1 => cases h
  | case2 rest =>
    obtain ⟨rfl, rfl⟩ := Prod.mk.inj (Option.some.inj h)
    rw [List.cons_append, readQuoted.eq_def]
    exact if_pos rfl
  | case3 => cases h
  | case4 escaped rest hclosing ih =>
    obtain ⟨value', hread, rfl⟩ := exists_of_map_eq_some h
    rw [List.cons_append, List.cons_append, readQuoted.eq_def]
    simp [hclosing, ih hread]
  | case5 c rest hclosing hescape ih =>
    obtain ⟨value', hread, rfl⟩ := exists_of_map_eq_some h
    rw [List.cons_append, readQuoted.eq_def]
    simp [hclosing, hescape, ih hread]

/-- A regular expression ends with its slash, whatever follows. -/
theorem readPatternSource_some_append {source : List Char}
    (h : readPatternSource text = some (source, behind)) (s : List Char) :
    readPatternSource (text ++ s) = some (source, behind ++ s) := by
  fun_induction readPatternSource text generalizing source with
  | case1 => cases h
  | case2 rest =>
    obtain ⟨rfl, rfl⟩ := Prod.mk.inj (Option.some.inj h)
    rw [List.cons_append, readPatternSource.eq_def]
    exact if_pos rfl
  | case3 => cases h
  | case4 escaped rest hclosing ih =>
    obtain ⟨⟨source', behind'⟩, hread, hpair⟩ := Option.map_eq_some_iff.mp h
    obtain ⟨rfl, rfl⟩ := Prod.mk.inj hpair
    rw [List.cons_append, List.cons_append, readPatternSource.eq_def]
    simp [ih hread]
  | case5 c rest hclosing hescape ih =>
    obtain ⟨source', hread, rfl⟩ := exists_of_map_eq_some h
    rw [List.cons_append, readPatternSource.eq_def]
    simp [hclosing, hescape, ih hread]

/-- A sign that is not followed by one with which it makes another operator. -/
theorem readSymbol_sign {c : Char} (hequals : text.head? ≠ some '=')
    (htilde : text.head? ≠ some '~') :
    readSymbol (c :: text) = (readSymbol [c]).map fun (operator, _) => (operator, text) := by
  by_cases hc : c = '=' ∨ c = '>' ∨ c = '<'
  · rcases hc with rfl | rfl | rfl <;> cases text with
    | nil => rfl
    | cons d rest => simp_all [readSymbol]
  · simp only [not_or] at hc
    rw [readSymbol.eq_def, readSymbol.eq_def]
    split <;> simp_all

/-- A sign that is followed by one with which it may make another operator. -/
theorem readSymbol_pair {c d : Char} (hd : d = '=' ∨ d = '~') (rest s : List Char) :
    readSymbol (c :: d :: (rest ++ s)) =
      (readSymbol (c :: d :: rest)).map fun (operator, behind) => (operator, behind ++ s) := by
  rw [readSymbol.eq_def (c :: d :: rest)]
  rcases hd with rfl | rfl
  · split <;> simp_all [readSymbol] <;> grind
  · split <;> simp_all [readSymbol] <;> grind

/-- An operator that is a symbol is the same with a seam behind the text. -/
theorem readSymbol_seam (h : Seam s) (c : Char) (text : List Char) :
    readSymbol (c :: text ++ s) =
      (readSymbol (c :: text)).map fun (operator, behind) => (operator, behind ++ s) := by
  by_cases hpair : text.head? = some '=' ∨ text.head? = some '~'
  · cases text with
    | nil => simp at hpair
    | cons d rest => exact readSymbol_pair (by simpa using hpair) rest s
  · obtain ⟨hequals, htilde⟩ := not_or.mp hpair
    rw [readSymbol_sign hequals htilde]
    rw [← h.head?_append_eq (by decide)] at hequals htilde
    rw [List.cons_append, readSymbol_sign hequals htilde, Option.map_map]
    rfl

/-- Where dropping stops within a text, what follows is left. -/
theorem dropWhile_append_of_ne_nil {p : Char → Bool} (h : text.dropWhile p ≠ [])
    (s : List Char) : (text ++ s).dropWhile p = text.dropWhile p ++ s := by
  rw [List.dropWhile_append, if_neg (by simpa using h)]

/-- An operator that is a word is the same with a seam behind the text, wherever the text stands. -/
theorem readWordOperator_seam (h : Seam s) {offset : Nat} {operator : Operator}
    (hread : readWordOperator offset text = .ok (operator, behind)) (offset' : Nat) :
    readWordOperator offset' (text ++ s) = .ok (operator, behind ++ s) := by
  obtain ⟨htake, hdrop⟩ := takeWhile_seam h stopsAtSeams_isOperatorChar text
  unfold readWordOperator at hread ⊢
  rw [htake, hdrop]
  dsimp only at hread ⊢
  split at hread
  case h_5 =>
    generalize text.dropWhile isOperatorChar = rest at hread ⊢
    have hne : rest.dropWhile Text.isBlank ≠ [] := by
      intro hnil
      rw [hnil] at hread
      cases hread
    obtain ⟨htake', hdrop'⟩ :=
      takeWhile_seam h stopsAtSeams_isAlphabetic (rest.dropWhile Text.isBlank)
    rw [dropWhile_append_of_ne_nil hne, htake', hdrop']
    split at hread
    case h_3 => cases hread
    all_goals
      cases hread
      rfl
  case h_6 => cases hread
  all_goals
    cases hread
    rfl

/-! ### Lexemes -/

/-- The modes on top of other ones. -/
def Modes.over (modes : Modes) (base : List Mode) : Modes :=
  ⟨modes.current, modes.outer ++ base⟩

@[simp] theorem Modes.over_nil (modes : Modes) : modes.over [] = modes := by
  rw [Modes.over, List.append_nil]

/-- A mode is left on top of others as it is alone, if it is not the last one. -/
theorem Modes.over_pop {modes : Modes} {base : List Mode} (h : base ≠ [] → modes.outer ≠ []) :
    (modes.over base).pop = modes.pop.over base := by
  obtain ⟨current, outer⟩ := modes
  cases outer with
  | nil =>
    obtain rfl : base = [] := Decidable.byContradiction fun hne => h hne rfl
    simp
  | cons mode outer => rfl

variable {modes modes' : Modes} {offset : Nat} {c : Char} {lexeme : Lexeme}

/-- Whether a text begins with a character that stops at seams does not depend on a seam behind
it. -/
theorem Seam.any_head?_append (h : Seam s) {p : Char → Bool} (hp : StopsAtSeams p)
    (text : List Char) :
    (text ++ s).head?.any p = text.head?.any p := by
  cases text with
  | nil =>
    cases s with
    | nil => rfl
    | cons c s => exact h.stops hp c rfl
  | cons d text => rfl

/-- A scalar is the same before a seam. -/
theorem ScansScalar.seam (h : Seam s) (hscalar : ScansScalar c text lexeme behind) :
    ScansScalar c (text ++ s) lexeme (behind ++ s) := by
  cases hscalar with
  | text hquote hread => exact .text hquote (readQuoted_append hread s)
  | @pattern _ flags hslash hread =>
    obtain ⟨htake, hdrop⟩ := takeWhile_seam h stopsAtSeams_isPatternFlag flags
    rw [← htake, ← hdrop]
    exact .pattern hslash (readPatternSource_some_append hread s)
  | word hquote hslash hread hne =>
    refine .word hquote hslash ?_ hne
    rw [← List.cons_append, readWord_seam h, hread]

/-- **What a lexeme can be is the same before a seam and on top of other modes**, if it leaves them
alone. -/
theorem Scans.seam (h : Seam s) (hscans : Scans modes c text lexeme behind modes')
    (base : List Mode)
    (hkeeps : base ≠ [] → modes.outer = [] → modes.current = .selector ∧ lexeme ≠ .closeParen) :
    Scans (modes.over base) c (text ++ s) lexeme (behind ++ s) (modes'.over base) := by
  have hstart := h.any_head?_append stopsAtSeams_isNameStart text
  obtain ⟨htakeName, hdropName⟩ := takeWhile_seam h stopsAtSeams_isNameChar text
  obtain ⟨htakePath, hdropPath⟩ := takeWhile_seam h stopsAtSeams_isPathChar text
  cases hscans with
  | kind hmode hdot hname =>
    rw [← htakeName, ← hdropName]
    exact .kind hmode hdot (hstart.trans hname)
  | kindValue hmode hdot hname =>
    rw [← htakeName, ← hdropName]
    exact .kindValue hmode hdot (hstart.trans hname)
  | scope hmode hname =>
    rw [← htakePath, ← hdropPath]
    exact .scope hmode hname
  | comma hmode hc => exact .comma hmode hc
  | combinator hmode hc => exact .combinator hmode hc
  | pseudo hbegins hname =>
    rw [← hdropName]
    exact .pseudo hbegins (htakeName ▸ hname)
  | position hbegins hname =>
    rw [← hdropName]
    exact .position hbegins (htakeName ▸ hname)
  | openBracket hmode hc => exact .openBracket hmode hc
  | closeBracket hmode hc =>
    have hinner : base ≠ [] → modes.outer ≠ [] := fun hbase hnil => by
      cases hmode.symm.trans (hkeeps hbase hnil).1
    rw [← Modes.over_pop hinner]
    exact .closeBracket hmode hc
  | openParen hmode hc => exact .openParen hmode hc
  | openArray hmode hc => exact .openArray hmode hc
  | closeParen hmode hc =>
    rw [← Modes.over_pop fun hbase hnil => (hkeeps hbase hnil).2 rfl]
    exact .closeParen hmode hc
  | key hmode hread hne =>
    refine .key hmode ?_ hne
    rw [← List.cons_append, readKey_seam h, hread]
  | symbol hmode hread =>
    refine .symbol hmode ?_
    rw [← List.cons_append, readSymbol_seam h, hread]
    rfl
  | @wordOperator _ _ offset hmode hsymbol halpha hread =>
    refine .wordOperator hmode ?_ halpha (readWordOperator_seam h hread offset)
    rw [← List.cons_append, readSymbol_seam h, hsymbol]
    rfl
  | scalarValue hmode hparen hkind hscalar =>
    exact .scalarValue hmode hparen (by rwa [hstart]) (hscalar.seam h)
  | element hmode hparen hscalar => exact .element hmode hparen (hscalar.seam h)

/-- **A lexeme is the same before a seam and on top of other modes**, if it leaves them alone. -/
theorem scan_seam (h : Seam s) (hscan : scan modes offset c text = .ok (lexeme, behind, modes'))
    (base : List Mode)
    (hkeeps : base ≠ [] → modes.outer = [] → modes.current = .selector ∧ lexeme ≠ .closeParen)
    (offset' : Nat) :
    scan (modes.over base) offset' c (text ++ s) = .ok (lexeme, behind ++ s, modes'.over base) :=
  scan_eq_ok_iff.mpr ((scan_eq_ok_iff.mp hscan).seam h base hkeeps)

/-- **A lexeme is the same before a seam, wherever it stands.** -/
theorem scan_append (h : Seam s) (hscan : scan modes offset c text = .ok (lexeme, behind, modes'))
    (offset' : Nat) : scan modes offset' c (text ++ s) = .ok (lexeme, behind ++ s, modes') := by
  have hseam := scan_seam h hscan [] (fun hne => absurd rfl hne) offset'
  rwa [Modes.over_nil, Modes.over_nil] at hseam

/-! ### Runs -/

/-- Whether a text goes on with a selector does not depend on a seam behind it. -/
theorem continuesValue_seam (h : Seam s) (text : List Char) :
    Modes.continuesValue (text ++ s) = Modes.continuesValue text := by
  cases text with
  | nil =>
    cases s with
    | nil => rfl
    | cons c s =>
      have hne : ∀ d, Text.isBlank d = false ∧ d ≠ ',' ∧ d ≠ ')' → (c == d) = false :=
        fun d hd => h.stops (stopsAtSeams_sign hd) c rfl
      simp [Modes.continuesValue, hne '[' (by decide), hne ':' (by decide), hne '(' (by decide)]
  | cons c text => rfl

/-- What is left of the modes before a token is the same, if a selector is left where nothing is
around it. -/
theorem settle_seam (h : Seam s) (text : List Char) {mode : Mode} {outer : List Mode}
    (base : List Mode)
    (hkeeps : base ≠ [] → (Modes.settle text mode outer).outer = [] →
      (Modes.settle text mode outer).current = .selector) :
    Modes.settle (text ++ s) mode (outer ++ base) = (Modes.settle text mode outer).over base := by
  induction outer generalizing mode with
  | nil =>
    by_cases hmode : mode = .valueSelector
    · subst hmode
      have hbase : base = [] := by
        by_contra hne
        cases hkeeps hne rfl
      subst hbase
      rfl
    · rw [Modes.settle_of_ne hmode, Modes.settle_of_ne hmode]
      rfl
  | cons next outer ih =>
    by_cases hmode : mode = .valueSelector
    · subst hmode
      cases hcontinues : Modes.continuesValue text with
      | true =>
        rw [Modes.settle_continues hcontinues,
          Modes.settle_continues ((continuesValue_seam h text).trans hcontinues)]
        rfl
      | false =>
        rw [Modes.settle_ends hcontinues] at hkeeps
        rw [Modes.settle_ends hcontinues, List.cons_append,
          Modes.settle_ends ((continuesValue_seam h text).trans hcontinues)]
        exact ih hkeeps
    · rw [Modes.settle_of_ne hmode, Modes.settle_of_ne hmode]
      rfl

/-- What is left of the modes before a token is the same before a seam. -/
theorem settle_append (h : Seam s) (text : List Char) (mode : Mode) (outer : List Mode) :
    Modes.settle (text ++ s) mode outer = Modes.settle text mode outer := by
  have hseam :
      Modes.settle (text ++ s) mode (outer ++ []) = (Modes.settle text mode outer).over [] :=
    settle_seam h text [] fun hne => absurd rfl hne
  rwa [List.append_nil, Modes.over_nil] at hseam

namespace Cursor

variable {cursor behind : Cursor} {token : Token} {tokens : List Token}

/-- **A token is the same before a seam and on top of other modes**, if it leaves them alone. -/
theorem next_seam (h : Seam s) (hnext : cursor.next = .ok (token, behind))
    (hlast : token.lexeme ≠ .endOfQuery) (base : List Mode)
    (hkeeps : base ≠ [] → cursor.Keeps token) :
    Cursor.next ⟨cursor.rest ++ s, cursor.offset, cursor.modes.over base⟩ =
      .ok (token, ⟨behind.rest ++ s, behind.offset, behind.modes.over base⟩) := by
  have hsettled : settled ⟨cursor.rest ++ s, cursor.offset, cursor.modes.over base⟩ =
      cursor.settled.over base :=
    settle_seam h cursor.rest base fun hbase hnil => (hkeeps hbase hnil).1
  cases next_eq_iff.mp hnext with
  | ends => exact absurd rfl hlast
  | @takes blanks c text rest lexeme modes hblanks hc hrest hscan =>
    have hscan' := scan_seam h hscan base hkeeps (cursor.offset + blanks.length)
    rw [← hsettled] at hscan'
    have hrest' : cursor.rest ++ s = blanks ++ c :: (text ++ s) := by
      rw [hrest, List.append_assoc, List.cons_append]
    have hlength : (text ++ s).length + 1 - (rest ++ s).length = text.length + 1 - rest.length := by
      rw [List.length_append, List.length_append, Nat.add_right_comm, Nat.add_sub_add_right]
    have hadvances := Advances.takes hblanks hc hrest' hscan'
    rw [hlength] at hadvances
    exact next_eq_iff.mpr hadvances

/-! ### Other places -/

/-- A lexeme is the same wherever it stands. -/
theorem scan_place {modes modes' : Modes} {place : Nat} {c : Char} {text rest : List Char}
    {lexeme : Lexeme} (h : scan modes place c text = .ok (lexeme, rest, modes')) (place' : Nat) :
    scan modes place' c text = .ok (lexeme, rest, modes') := by
  have hnil : Seam [] := fun c hc => by cases hc
  simpa using scan_append hnil h place'

variable {f : Nat → Nat} {offset : Nat}

/-- **A token is the same at another place.** -/
theorem next_relocate (hf : ∀ i, f (cursor.offset + i) = offset + i)
    (hnext : cursor.next = .ok (token, behind)) :
    Cursor.next ⟨cursor.rest, offset, cursor.modes⟩ =
        .ok (token.relocate f, ⟨behind.rest, f behind.offset, behind.modes⟩) ∧
      ∀ i, f (behind.offset + i) = f behind.offset + i := by
  cases next_eq_iff.mp hnext with
  | ends hblanks hexpected =>
    refine ⟨next_eq_iff.mpr ?_, fun i => by rw [Nat.add_assoc, hf, hf, Nat.add_assoc]⟩
    rw [Token.relocate, hf]
    exact .ends hblanks hexpected
  | @takes blanks c text rest lexeme modes hblanks hc hrest hscan =>
    refine ⟨next_eq_iff.mpr ?_, fun i => by simp only [Nat.add_assoc, hf]⟩
    have hadvances : Advances ⟨cursor.rest, offset, cursor.modes⟩ _ :=
      .takes hblanks hc hrest (scan_place hscan (offset + blanks.length))
    simpa only [Token.relocate, Nat.add_assoc, hf] using hadvances

/-- **A run is the same from another offset**, with tokens at other places. -/
theorem Run.relocate (hrun : cursor.Run tokens behind)
    (hf : ∀ i, f (cursor.offset + i) = offset + i) :
    Run ⟨cursor.rest, offset, cursor.modes⟩ (tokens.map (Token.relocate f))
        ⟨behind.rest, f behind.offset, behind.modes⟩ ∧
      ∀ i, f (behind.offset + i) = f behind.offset + i := by
  induction hrun generalizing offset with
  | nil cursor =>
    have hoffset : f cursor.offset = offset := hf 0
    subst hoffset
    exact ⟨.nil _, hf⟩
  | cons hnext hlast _ ih =>
    obtain ⟨hnext', hf'⟩ := next_relocate hf hnext
    obtain ⟨hrun, hf''⟩ := ih hf'
    exact ⟨.cons hnext' hlast hrun, hf''⟩

/-! ### Runs before a seam -/

/-- **A run that nests is the same before a seam and on top of other modes.** -/
theorem Nests.run_seam (hnests : cursor.Nests tokens behind) (h : Seam s) (base : List Mode) :
    Run ⟨cursor.rest ++ s, cursor.offset, cursor.modes.over base⟩ tokens
      ⟨behind.rest ++ s, behind.offset, behind.modes.over base⟩ := by
  induction hnests with
  | nil => exact .nil _
  | cons hnext hlast hkeeps _ ih =>
    exact .cons (next_seam h hnext hlast base fun _ => hkeeps) hlast ih

/-- **Any run is the same before a seam.** -/
theorem Run.seam (hrun : cursor.Run tokens behind) (h : Seam s) :
    Run ⟨cursor.rest ++ s, cursor.offset, cursor.modes⟩ tokens
      ⟨behind.rest ++ s, behind.offset, behind.modes⟩ := by
  induction hrun with
  | nil => exact .nil _
  | cons hnext hlast _ ih =>
    have hnext' := next_seam h hnext hlast [] fun hne => absurd rfl hne
    simp only [Modes.over_nil] at hnext'
    exact .cons hnext' hlast ih

end Cursor

variable {cursor : Cursor} {tokens : List Token}

/-- **The tokens from a cursor on are the same at another place.** -/
theorem tokensFrom_relocate {f : Nat → Nat} {offset : Nat}
    (hf : ∀ i, f (cursor.offset + i) = offset + i) (h : tokensFrom cursor = .ok tokens) :
    tokensFrom ⟨cursor.rest, offset, cursor.modes⟩ = .ok (tokens.map (Token.relocate f)) := by
  rw [tokensFrom_eq_ok_iff_cuts] at h ⊢
  induction h generalizing offset with
  | last hnext hlast => exact .last (Cursor.next_relocate hf hnext).1 hlast
  | more hnext hlast _ ih =>
    obtain ⟨hnext', hf'⟩ := Cursor.next_relocate hf hnext
    exact .more hnext' hlast (ih hf')

/-- Tokens at other places spell the same pieces. -/
theorem Spells.relocate {tokens rest : List Token} {pieces : List Piece}
    (h : Spells tokens pieces rest) (f : Nat → Nat) :
    Spells (tokens.map (Token.relocate f)) pieces (rest.map (Token.relocate f)) := by
  induction h with
  | nil => exact .nil _
  | cons hfits _ ih => exact .cons ⟨hfits.part, hfits.spacing⟩ ih

end TreeQuery
