import TreeQuery.Proofs.Query.Seams

/-!
# Text in front of a seam

What is read in front of a seam is read without it. Whatever ends a lexeme, the lexeme stands in the
text by itself: with nothing behind it, it is found again. What the lexer finds only with more text
behind ends in that text, so that a lexeme in front of a seam is none of those.

A lexeme does not end with a blank either. So the lexer, before it goes on to a token, stands
directly before the blanks in front of it.

## Main definitions and results

* `Consumes` — taking a text from the front, up to a character that is no blank.
* `consumes_of_scan`: **no lexeme ends with a blank**.
* `scan_front`: a lexeme in front of a seam is found without it.
* `Cursor.Run.front`: **so is a run**.
-/

namespace TreeQuery

/-! ### No lexeme ends with a blank -/

/-- The text goes on with `behind`, and what comes before does not end with a blank. -/
def Consumes (text behind : List Char) : Prop :=
  ∃ front, text = front ++ behind ∧ ∀ c ∈ front.getLast?, Text.isBlank c = false

namespace Consumes

variable {text middle behind : List Char}

/-- Taking nothing is taking a text that does not end with a blank. -/
theorem refl (text : List Char) : Consumes text text := ⟨[], rfl, by simp⟩

/-- What is taken in two steps, neither of which ends with a blank, does not end with one. -/
theorem trans (h : Consumes text middle) (h' : Consumes middle behind) : Consumes text behind := by
  obtain ⟨front, rfl, hfront⟩ := h
  obtain ⟨more, rfl, hmore⟩ := h'
  refine ⟨front ++ more, by rw [List.append_assoc], fun c hc => ?_⟩
  rw [List.getLast?_append] at hc
  cases hlast : more.getLast? with
  | none => exact hfront c (by simpa [hlast] using hc)
  | some d => exact hmore c (by simpa [hlast] using hc)

/-- Up to a character that is no blank. -/
theorem upTo (front : List Char) {c : Char} (hc : Text.isBlank c = false) (behind : List Char) :
    Consumes (front ++ c :: behind) behind :=
  ⟨front ++ [c], by simp, by simpa using hc⟩

/-- One character that is no blank is taken. -/
theorem cons {c : Char} (hc : Text.isBlank c = false) (behind : List Char) :
    Consumes (c :: behind) behind := upTo [] hc behind

/-- Where something is consumed, more may stand in front. -/
theorem of_suffix (h : Consumes middle behind) (hlt : behind.length < middle.length)
    (hsuffix : middle <:+ text) : Consumes text behind := by
  obtain ⟨front, rfl, hfront⟩ := h
  obtain ⟨more, rfl⟩ := hsuffix
  have hne : front ≠ [] := by
    rintro rfl
    exact absurd hlt (Nat.lt_irrefl _)
  refine ⟨more ++ front, by rw [List.append_assoc], ?_⟩
  rwa [List.getLast?_append_of_ne_nil more hne]

/-- Characters of a kind that no blank belongs to are taken. -/
theorem dropWhile {p : Char → Bool} (hp : StopsAtSeams p) (text : List Char) :
    Consumes text (text.dropWhile p) := by
  refine ⟨text.takeWhile p, (List.takeWhile_append_dropWhile).symm, fun c hc => ?_⟩
  have hpc : p c = true := List.mem_takeWhile_imp (List.mem_of_getLast? hc)
  refine Bool.eq_false_iff.mpr fun hblank => ?_
  simp [hp.blank c hblank] at hpc

end Consumes

variable {text behind : List Char}

/-- A key does not end with a blank. -/
theorem consumes_readKey (text : List Char) : Consumes text (readKey text).2 := by
  induction text with
  | nil => exact .refl _
  | cons c text ih =>
    rw [readKey]
    split
    · exact .refl _
    · rename_i hstop
      simp only [Bool.or_eq_true, not_or, Bool.not_eq_true, Bool.not_eq_false'] at hstop
      exact (Consumes.cons (isBlank_eq_false_of_isPathChar hstop.1) text).trans ih

/-- A word does not end with a blank. -/
theorem consumes_readWord (text : List Char) : Consumes text (readWord text).2 := by
  fun_induction readWord text with
  | case1 rest word behind heq ih =>
    rw [heq] at ih
    exact ((Consumes.cons (by decide) _).trans (.cons (by decide) rest)).trans ih
  | case2 => exact .refl _
  | case3 c rest _ hends _ behind heq ih =>
    rw [heq] at ih
    have hblank : Text.isBlank c = false := by
      refine Bool.eq_false_iff.mpr fun hblank => hends ?_
      simp [endsWord, hblank]
    exact (Consumes.cons hblank rest).trans ih
  | case4 => exact .refl _

/-- An operator that is a symbol does not end with a blank. -/
theorem consumes_readSymbol {operator : Operator} (h : readSymbol text = some (operator, behind)) :
    Consumes text behind := by
  unfold readSymbol at h
  split at h <;> cases h
  all_goals first
    | exact (Consumes.cons (by decide) _).trans (.cons (by decide) _)
    | exact .cons (by decide) _

/-- A word that is not empty is taken from the text. -/
theorem dropWhile_isAlphabetic_lt {word : String} (hword : word ≠ "")
    (h : String.ofList (Text.lowercase (text.takeWhile Text.isAlphabetic)) = word) :
    (text.dropWhile Text.isAlphabetic).length < text.length := by
  have hsplit := congrArg List.length
    (List.takeWhile_append_dropWhile (p := Text.isAlphabetic) (l := text))
  rw [List.length_append] at hsplit
  have hne : text.takeWhile Text.isAlphabetic ≠ [] := by
    intro hnil
    rw [hnil] at h
    exact hword h.symm
  have hpos := List.length_pos_iff.mpr hne
  omega

/-- An operator that is a word does not end with a blank, although blanks may stand between a
negation and the word that it negates. -/
theorem consumes_readWordOperator {offset : Nat} {operator : Operator}
    (h : readWordOperator offset text = .ok (operator, behind)) : Consumes text behind := by
  unfold readWordOperator at h
  dsimp only at h
  split at h
  case h_5 =>
    have hsuffix : (text.dropWhile isOperatorChar).dropWhile Text.isBlank <:+ text :=
      (List.dropWhile_suffix _).trans (List.dropWhile_suffix _)
    split at h
    case h_3 => cases h
    all_goals
      rename_i hword
      cases h
      exact (Consumes.dropWhile stopsAtSeams_isAlphabetic _).of_suffix
        (dropWhile_isAlphabetic_lt (by simp) hword) hsuffix
  case h_6 => cases h
  all_goals
    cases h
    exact .dropWhile stopsAtSeams_isOperatorChar text

variable {modes modes' : Modes} {offset : Nat} {c : Char} {lexeme : Lexeme}

/-- Behind its first character, which is no blank. -/
theorem ScansScalar.consumes (hblank : Text.isBlank c = false)
    (h : ScansScalar c text lexeme behind) :
    Consumes (c :: text) behind := by
  cases h with
  | text _ hread =>
    obtain ⟨front, rfl⟩ := exists_append_of_readQuoted hread
    exact .upTo (c :: front) hblank behind
  | @pattern _ flags hslash hread =>
    obtain ⟨value, hread⟩ := exists_readQuoted_of_readPatternSource hread
    obtain ⟨front, rfl⟩ := exists_append_of_readQuoted hread
    exact (Consumes.upTo (c :: front) (by decide) flags).trans
      (.dropWhile stopsAtSeams_isPatternFlag flags)
  | word _ _ hread =>
    have hword := consumes_readWord (c :: text)
    rwa [hread] at hword

/-- **No lexeme ends with a blank**, in any mode. -/
theorem consumes_of_scan (hblank : Text.isBlank c = false)
    (h : scan modes offset c text = .ok (lexeme, behind, modes')) :
    Consumes (c :: text) behind := by
  have hfirst : Consumes (c :: text) text := .cons hblank text
  cases scans_of_scan h with
  | kind | kindValue | pseudo | position =>
    exact hfirst.trans (.dropWhile stopsAtSeams_isNameChar text)
  | scope => exact hfirst.trans (.dropWhile stopsAtSeams_isPathChar text)
  | key _ hread =>
    have hkey := consumes_readKey (c :: text)
    rwa [hread] at hkey
  | symbol _ hread => exact consumes_readSymbol hread
  | wordOperator _ _ _ hread => exact consumes_readWordOperator hread
  | scalarValue _ _ _ hscalar | element _ _ hscalar => exact hscalar.consumes hblank
  | _ => exact hfirst

namespace Cursor

variable {cursor behind : Cursor} {token : Token} {tokens : List Token}

/-- What is taken together with a token does not end with a blank. -/
theorem consumes_of_next (h : cursor.next = .ok (token, behind))
    (hlast : token.lexeme ≠ .endOfQuery) : Consumes cursor.rest behind.rest := by
  cases next_eq_iff.mp h with
  | ends => exact absurd rfl hlast
  | takes _ hc hrest hscan =>
    refine (consumes_of_scan hc hscan).of_suffix ?_ (hrest ▸ List.suffix_append _ _)
    exact Nat.lt_succ_of_le (scan_suffix hscan).length_le

/-- What a run takes from the text does not end with a blank. -/
theorem Run.consumes (h : cursor.Run tokens behind) : Consumes cursor.rest behind.rest := by
  induction h with
  | nil => exact .refl _
  | cons hnext hlast _ ih => exact (consumes_of_next hnext hlast).trans ih

end Cursor

/-! ### Text without the seam behind it -/

variable {s : List Char}

/-- A quoted text that ends only with more text behind it ends in that text. -/
theorem length_lt_of_readQuoted {closing : Char} {value : List Char}
    (h : readQuoted closing text = none)
    (h' : readQuoted closing (text ++ s) = some (value, behind)) : behind.length < s.length := by
  have hshort : ∀ {more value behind}, readQuoted closing more = some (value, behind) →
      behind.length < more.length := by
    intro more value behind hread
    obtain ⟨front, rfl⟩ := exists_append_of_readQuoted hread
    simp only [List.length_append, List.length_cons]
    omega
  fun_induction readQuoted closing text generalizing value with
  | case1 => exact hshort h'
  | case2 => cases h
  | case3 hclosing =>
    cases s with
    | nil => simp [readQuoted, hclosing] at h'
    | cons escaped s =>
      rw [List.singleton_append, readQuoted, if_neg hclosing, if_pos rfl] at h'
      obtain ⟨value', hread, -⟩ := exists_of_map_eq_some h'
      exact Nat.lt_succ_of_lt (hshort hread)
  | case4 escaped rest hclosing ih =>
    rw [List.cons_append, List.cons_append, readQuoted, if_neg hclosing, if_pos rfl] at h'
    obtain ⟨value', hread, -⟩ := exists_of_map_eq_some h'
    exact ih (Option.map_eq_none_iff.mp h) hread
  | case5 c rest hclosing hescape ih =>
    rw [List.cons_append, readQuoted.eq_def] at h'
    dsimp only at h'
    rw [if_neg hclosing, if_neg hescape] at h'
    obtain ⟨value', hread, -⟩ := exists_of_map_eq_some h'
    exact ih (Option.map_eq_none_iff.mp h) hread

/-- An operator that is found only with more text behind it ends in that text: a negation may stand
apart from the word that it negates. -/
theorem length_lt_of_readWordOperator (hs : Seam s) {error : ParseError} {operator : Operator}
    (h : readWordOperator offset text = .error error)
    (h' : readWordOperator offset (text ++ s) = .ok (operator, behind)) :
    behind.length < s.length := by
  obtain ⟨htake, hdrop⟩ := takeWhile_seam hs stopsAtSeams_isOperatorChar text
  unfold readWordOperator at h h'
  rw [htake, hdrop] at h'
  dsimp only at h h'
  split at h
  case h_5 hnot =>
    simp only [hnot] at h'
    generalize text.dropWhile isOperatorChar = rest at h h'
    by_cases hnil : rest.dropWhile Text.isBlank = []
    · rw [List.dropWhile_append, if_pos (by simpa using hnil)] at h'
      have hle : (s.dropWhile Text.isBlank).length ≤ s.length :=
        (List.dropWhile_suffix _).length_le
      split at h'
      case h_3 => cases h'
      all_goals
        rename_i hword
        cases h'
        exact Nat.lt_of_lt_of_le (dropWhile_isAlphabetic_lt (by simp) hword) hle
    · obtain ⟨htake', hdrop'⟩ :=
        takeWhile_seam hs stopsAtSeams_isAlphabetic (rest.dropWhile Text.isBlank)
      rw [dropWhile_append_of_ne_nil hnil, htake'] at h'
      split at h
      case h_3 =>
        split at h' <;> simp_all
      all_goals cases h
  case h_6 =>
    split at h' <;> simp_all
  all_goals cases h

variable {error : ParseError}

/-- A scalar that is found only with a seam behind the text ends in the seam. -/
theorem ScansScalar.length_lt (hs : Seam s)
    (hnot : ∀ {lexeme behind}, ¬ ScansScalar c text lexeme behind)
    (h : ScansScalar c (text ++ s) lexeme behind) : behind.length < s.length := by
  cases h with
  | text hquote hread' =>
    cases hread : readQuoted c text with
    | none => exact length_lt_of_readQuoted hread hread'
    | some found => exact absurd (.text hquote hread) hnot
  | pattern hslash hread' =>
    cases hread : readPatternSource text with
    | none =>
      have hread := readQuoted_of_readPatternSource_eq_none hread
      obtain ⟨value, hread'⟩ := exists_readQuoted_of_readPatternSource hread'
      exact Nat.lt_of_le_of_lt (List.dropWhile_suffix _).length_le
        (length_lt_of_readQuoted hread hread')
    | some found => exact absurd (.pattern hslash hread) hnot
  | word hquote hslash hread hne =>
    rw [← List.cons_append, readWord_seam hs] at hread
    obtain ⟨rfl, -⟩ := Prod.mk.inj hread
    exact absurd (.word hquote hslash rfl hne) hnot

/-- What is found only with a seam behind the text ends in the seam: only a quoted text, a regular
expression and a negation can do so. -/
theorem Scans.length_lt (hs : Seam s)
    (hnot : ∀ {lexeme behind modes'}, ¬ Scans modes c text lexeme behind modes')
    (h : Scans modes c (text ++ s) lexeme behind modes') : behind.length < s.length := by
  have hstart := hs.any_head?_append stopsAtSeams_isNameStart text
  obtain ⟨htake, -⟩ := takeWhile_seam hs stopsAtSeams_isNameChar text
  cases h with
  | kind hmode hdot hname => exact absurd (.kind hmode hdot (hstart ▸ hname)) hnot
  | kindValue hmode hdot hname => exact absurd (.kindValue hmode hdot (hstart ▸ hname)) hnot
  | scope hmode hname => exact absurd (.scope hmode hname) hnot
  | comma hmode hc => exact absurd (.comma hmode hc) hnot
  | combinator hmode hc => exact absurd (.combinator hmode hc) hnot
  | pseudo hbegins hname => exact absurd (.pseudo hbegins (htake ▸ hname)) hnot
  | position hbegins hname => exact absurd (.position hbegins (htake ▸ hname)) hnot
  | openBracket hmode hc => exact absurd (.openBracket hmode hc) hnot
  | closeBracket hmode hc => exact absurd (.closeBracket hmode hc) hnot
  | openParen hmode hc => exact absurd (.openParen hmode hc) hnot
  | openArray hmode hc => exact absurd (.openArray hmode hc) hnot
  | closeParen hmode hc => exact absurd (.closeParen hmode hc) hnot
  | key hmode hread hne =>
    rw [← List.cons_append, readKey_seam hs] at hread
    obtain ⟨rfl, -⟩ := Prod.mk.inj hread
    exact absurd (.key hmode rfl hne) hnot
  | symbol hmode hread =>
    rw [← List.cons_append, readSymbol_seam hs] at hread
    obtain ⟨found, hread, -⟩ := Option.map_eq_some_iff.mp hread
    exact absurd (.symbol hmode hread) hnot
  | @wordOperator _ _ offset hmode hsymbol halpha hread' =>
    rw [← List.cons_append, readSymbol_seam hs, Option.map_eq_none_iff] at hsymbol
    cases hread : readWordOperator offset (c :: text) with
    | error error => exact length_lt_of_readWordOperator hs hread hread'
    | ok found => exact absurd (.wordOperator hmode hsymbol halpha hread) hnot
  | scalarValue hmode hparen hkind hscalar =>
    rw [hstart] at hkind
    exact hscalar.length_lt hs fun hscalar => hnot (.scalarValue hmode hparen hkind hscalar)
  | element hmode hparen hscalar =>
    exact hscalar.length_lt hs fun hscalar => hnot (.element hmode hparen hscalar)

/-- **A lexeme that is found only with a seam behind the text ends in the seam.** -/
theorem length_lt_of_scan (hs : Seam s) (h : scan modes offset c text = .error error)
    (h' : scan modes offset c (text ++ s) = .ok (lexeme, behind, modes')) :
    behind.length < s.length :=
  (scan_eq_ok_iff.mp h').length_lt hs fun hscans => by
    cases h.symm.trans (scan_eq_ok_iff.mpr hscans)

/-- **A lexeme in front of a seam is found without it.** -/
theorem scan_front (hs : Seam s)
    (h : scan modes offset c (text ++ s) = .ok (lexeme, behind ++ s, modes')) :
    scan modes offset c text = .ok (lexeme, behind, modes') := by
  cases hfound : scan modes offset c text with
  | error error =>
    have hlt := length_lt_of_scan hs hfound h
    rw [List.length_append] at hlt
    omega
  | ok found =>
    obtain ⟨lexeme', behind', modes''⟩ := found
    have hseam := scan_append hs hfound offset
    rw [h] at hseam
    obtain ⟨rfl, hbehind, rfl⟩ :
        lexeme = lexeme' ∧ behind ++ s = behind' ++ s ∧ modes' = modes'' := by
      simpa using hseam
    rw [List.append_cancel_right hbehind]

namespace Cursor

variable {cursor behind : Cursor} {token : Token} {tokens : List Token}

/-- **A token in front of a seam is found without it.** -/
theorem next_front (hs : Seam s) {rest : List Char} (hrest : cursor.rest = text ++ s)
    (hbehind : behind.rest = rest ++ s) (h : cursor.next = .ok (token, behind))
    (hlast : token.lexeme ≠ .endOfQuery) :
    Cursor.next ⟨text, cursor.offset, cursor.modes⟩ =
      .ok (token, ⟨rest, behind.offset, behind.modes⟩) := by
  have hsettled : cursor.settled = settled ⟨text, cursor.offset, cursor.modes⟩ := by
    rw [settled, settled, hrest, settle_append hs]
  cases next_eq_iff.mp h with
  | ends => exact absurd rfl hlast
  | @takes blanks c behindFirst behind lexeme modes hblanks hc htext hscan =>
    dsimp only at hbehind
    subst hbehind
    -- the lexeme begins before the seam, because the seam is behind it
    have hlength := (scan_suffix hscan).length_le
    rw [List.length_append] at hlength
    obtain ⟨more, hfirst, hseam⟩ | ⟨more, htext', hfirst⟩ :=
      List.append_eq_append_iff.mp (hrest.symm.trans htext)
    · have hseam := congrArg List.length hseam
      simp only [List.length_append, List.length_cons] at hseam
      omega
    · cases more with
      | nil =>
        have hfirst := congrArg List.length hfirst
        simp only [List.nil_append, List.length_cons] at hfirst
        omega
      | cons d more =>
        rw [List.cons_append] at hfirst
        obtain ⟨rfl, rfl⟩ := List.cons.inj hfirst
        rw [hsettled] at hscan
        have hadvances : Advances ⟨text, cursor.offset, cursor.modes⟩ _ :=
          .takes hblanks hc htext' (scan_front hs hscan)
        have hplace :
            (more ++ s).length + 1 - (rest ++ s).length = more.length + 1 - rest.length := by
          rw [List.length_append, List.length_append, Nat.add_right_comm, Nat.add_sub_add_right]
        rw [hplace]
        exact next_eq_iff.mpr hadvances

/-- **A run in front of a seam is one without it.** -/
theorem Run.front (hs : Seam s) (h : cursor.Run tokens behind) {rest : List Char}
    (hrest : cursor.rest = text ++ s) (hbehind : behind.rest = rest ++ s) :
    Run ⟨text, cursor.offset, cursor.modes⟩ tokens ⟨rest, behind.offset, behind.modes⟩ := by
  induction h generalizing text with
  | nil cursor =>
    obtain rfl := List.append_cancel_right (hrest.symm.trans hbehind)
    exact .nil _
  | cons hnext hlast hrun ih =>
    obtain ⟨front, hfront, -⟩ := hrun.consumes
    rw [hbehind, ← List.append_assoc] at hfront
    exact .cons (next_front hs hrest hfront hnext hlast) hlast (ih hfront hbehind)

end Cursor

end TreeQuery
