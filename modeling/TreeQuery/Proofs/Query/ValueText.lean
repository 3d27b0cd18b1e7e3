import TreeQuery.Proofs.Query.KeyText

/-!
# The text of values

A scalar ends where a blank or a closing mark stands, an array at its closing parenthesis. A value
that is no selector is read from its text, unless a double in it is not finite or an identifier
begins as a kind.

## Main results

* `settles_element`: a scalar in an array is read exactly when it is finite.
* `settles_scalar`: a scalar as a value is read exactly when it is legible.
* `settles_array`: **an array is read exactly when all of its elements are finite**.
-/

namespace TreeQuery

variable {outer : List Mode} {modes modes' : Modes} {rest : List Char} {value : Value}

/-! ### Scalars -/

/-- Where a scalar is scanned for, the text of one that is not finite is read as an identifier. -/
theorem misreads_scalar (hfinite : value.isFinite = false) (hmode : modes.current ≠ .valueSelector)
    (hrest : ∀ d ∈ rest.head?, endsScalar d = true)
    (hscan : ∀ offset c text, value.spelling = c :: text → BeginsScalar c →
      scan modes offset c (text ++ rest) = scanScalar modes' offset c (text ++ rest)) :
    Misreads value.spelling modes [⟨.scalar value, .free⟩] rest := by
  cases value with
  | float x =>
    obtain ⟨hword, hmeaning⟩ := ofWord_literalText_of_not_isFinite hfinite
    obtain ⟨-, c, hhead, -⟩ := isWord_iff.mp hword
    obtain ⟨text, htext⟩ := List.head?_eq_some_iff.mp hhead
    have hlexeme : String.ofList (c :: text) = x.literalText := by
      rw [← htext, String.ofList_toList]
    have hspelling : (Value.float x).spelling = c :: text := htext
    rw [htext] at hword
    rw [hspelling] at hscan ⊢
    refine Misreads.token modes (BeginsScalar.of_isWord hword).not_blank
      (Modes.settle_of_ne hmode _ _) ?_
    intro offset lexeme behind modes'' hscanned part hpart halike
    rw [hscan offset c text rfl (.of_isWord hword),
      scanScalar_word hword fun d hd => endsWord_of_endsScalar (hrest d hd)] at hscanned
    cases hscanned
    rw [Lexeme.part?, hlexeme, hmeaning] at hpart
    cases hpart
    cases halike
  | _ => cases hfinite

/-- **Where a scalar is scanned for, its text is read exactly when it is finite.** -/
theorem settles_of_scan (hscalar : value.isScalar = true) (hmode : modes.current ≠ .valueSelector)
    (hrest : ∀ d ∈ rest.head?, endsScalar d = true)
    (hscan : ∀ offset c text, value.spelling = c :: text → BeginsScalar c →
      scan modes offset c (text ++ rest) = scanScalar modes' offset c (text ++ rest)) :
    Settles value.isFinite value.spelling modes [⟨.scalar value, .free⟩] rest modes' := by
  refine ⟨fun hfinite => ?_, fun hfinite => misreads_scalar hfinite hmode hrest hscan⟩
  obtain ⟨c, text, lexeme, hspelling, hbegins, hpart, hread⟩ := scanScalar_spelling hscalar hfinite
  rw [hspelling]
  refine Reads.token lexeme modes hbegins.not_blank (Modes.settle_of_ne hmode _ _) ?_ hpart rfl
  intro offset
  rw [hscan offset c text hspelling hbegins]
  exact hread rest hrest modes' offset

/-! ### Arrays -/

/-- A scalar in an array is read exactly when it is finite. -/
theorem settles_element (hscalar : value.isScalar = true)
    (hrest : ∀ d ∈ rest.head?, endsScalar d = true) :
    Settles value.isFinite value.spelling ⟨.array, outer⟩ [⟨.scalar value, .free⟩] rest
      ⟨.array, outer⟩ := by
  refine settles_of_scan hscalar (by simp) hrest fun offset c text _ hbegins => ?_
  rw [scan, scanArray, if_neg hbegins.not_close]

/-- The elements of an array are read, up to its end, exactly when all of them are finite. -/
theorem settles_elements {mode : Mode} {items : List Value}
    (hscalar : ∀ item ∈ items, item.isScalar = true) :
    Settles (items.all Value.isFinite) (Value.rowSpelling items ++ [')'])
      ⟨.array, mode :: outer⟩ (elementPieces items) rest ⟨mode, outer⟩ := by
  have hclose : Settles true [')'] ⟨.array, mode :: outer⟩ [⟨.closeParen, .free⟩] rest
      ⟨mode, outer⟩ :=
    (Reads.token .closeParen ⟨.array, mode :: outer⟩ (by decide)
      (Modes.settle_of_ne (by simp) _ _) (fun _ => rfl) rfl rfl).settles
  induction items with
  | nil => exact hclose
  | cons first others ih =>
    have hfirst := hscalar first List.mem_cons_self
    cases others with
    | nil =>
      have hread : Settles first.isFinite first.spelling ⟨.array, mode :: outer⟩
          [⟨.scalar first, .free⟩] (')' :: rest) ⟨.array, mode :: outer⟩ :=
        settles_element hfirst (by simp [endsScalar])
      simpa [Value.rowSpelling, elementPieces] using hread.append hclose
    | cons next others =>
      have hothers := ih fun item hitem => hscalar item (List.mem_cons_of_mem _ hitem)
      have hspaced : Settles ((next :: others).all Value.isFinite)
          (' ' :: (Value.rowSpelling (next :: others) ++ [')'])) ⟨.array, mode :: outer⟩
          (elementPieces (next :: others)) rest ⟨mode, outer⟩ :=
        hothers.blank (by decide) (by simp) rfl
      have hread : Settles first.isFinite first.spelling ⟨.array, mode :: outer⟩
          [⟨.scalar first, .free⟩]
          (' ' :: (Value.rowSpelling (next :: others) ++ [')']) ++ rest) ⟨.array, mode :: outer⟩ :=
        settles_element hfirst (by simp [endsScalar])
      simpa [Value.rowSpelling, elementPieces] using hread.append hspaced

/-- **An array is read exactly when all of its elements are finite.** -/
theorem settles_array {items : List Value} (hscalar : ∀ item ∈ items, item.isScalar = true) :
    Settles (items.all Value.isFinite) (Value.array items).spelling ⟨.value, outer⟩
      (Value.array items).pieces rest ⟨.attributeEnd, outer⟩ := by
  have hopen : Settles true ['('] ⟨.value, outer⟩ [⟨.openParen, .free⟩]
      (Value.rowSpelling items ++ [')'] ++ rest) ⟨.array, .attributeEnd :: outer⟩ :=
    (Reads.token .openParen ⟨.value, outer⟩ (by decide) (Modes.settle_of_ne (by simp) _ _)
      (fun _ => rfl) rfl rfl).settles
  have hread := hopen.append (settles_elements hscalar)
  simpa [Value.spelling, Value.pieces] using hread

/-! ### Scalars as values -/

/-- A text that begins a kind has a dot and the first character of a name. -/
theorem eq_cons_of_beginsKind {text : List Char} (h : beginsKind text = true) :
    ∃ c more, text = '.' :: c :: more ∧ isNameStart c = true := by
  unfold beginsKind at h
  split at h
  · exact ⟨_, _, rfl, h⟩
  · cases h

/-- Only an identifier begins with a dot or an equals sign. -/
theorem Value.eq_identifier_of_head? (hscalar : value.isScalar = true) {c : Char}
    (hc : c = '.' ∨ c = '=') (h : value.spelling.head? = some c) :
    ∃ word, value = .identifier word := by
  have hnumber : looksNumeric value.spelling = false := by
    obtain ⟨text, htext⟩ := List.head?_eq_some_iff.mp h
    rw [htext]
    rcases hc with rfl | rfl <;> rfl
  have hother : ∀ d, d ≠ '.' → d ≠ '=' → value.spelling.head? ≠ some d := by
    rintro d hdot hequals heq
    obtain rfl : c = d := Option.some.inj (h.symm.trans heq)
    exact hc.elim hdot hequals
  cases value with
  | identifier word => exact ⟨word, rfl⟩
  | integer n => simp [spelling, looksNumeric_integerSpelling] at hnumber
  | float x =>
    cases hfinite : x.isFinite with
    | true => simp [spelling, looksNumeric_literalText hfinite] at hnumber
    | false =>
      rw [spelling] at hother
      rcases x.literalText_of_not_isFinite hfinite with htext | htext | htext <;>
        rw [htext] at hother <;> exact absurd rfl (hother _ (by decide) (by decide))
  | boolean b => cases b <;> exact absurd rfl (hother _ (by decide) (by decide))
  | array items => cases hscalar
  | selector s => cases hscalar
  | _ => exact absurd rfl (hother _ (by decide) (by decide))

/-- Where no kind begins, a character that is no part of a name does not make one. -/
theorem scanKind?_eq_none {c : Char} {text : List Char} (h : beginsKind (c :: text) = false)
    (hrest : ∀ d ∈ rest.head?, isNameStart d = false) : scanKind? c (text ++ rest) = none := by
  refine if_neg fun hkind => ?_
  obtain ⟨hdot, hstart⟩ := Bool.and_eq_true_iff.mp hkind
  obtain rfl : c = '.' := beq_iff_eq.mp hdot
  cases text with
  | nil =>
    obtain ⟨d, hd, hname⟩ := (Option.any_eq_true _ _).mp hstart
    exact absurd hname (by simp [hrest d hd])
  | cons d text => exact absurd hstart (Bool.eq_false_iff.mp h)

/-- **A scalar as a value is read exactly when it is legible.** -/
theorem settles_scalar (hscalar : value.isScalar = true)
    (hrest : ∀ d ∈ rest.head?, endsScalar d = true) :
    Settles value.isLegible value.spelling ⟨.value, outer⟩ [⟨.scalar value, .free⟩] rest
      ⟨.attributeEnd, outer⟩ := by
  cases hkind : beginsKind value.spelling with
  | true =>
    obtain ⟨c, more, htext, hstart⟩ := eq_cons_of_beginsKind hkind
    obtain ⟨word, rfl⟩ := value.eq_identifier_of_head? hscalar (.inl rfl) (by rw [htext]; rfl)
    have hlegible : (Value.identifier word).isLegible = false := congrArg not hkind
    refine ⟨fun h => by simp [hlegible] at h, fun _ => ?_⟩
    rw [htext]
    refine Misreads.token ⟨.value, outer⟩ (by decide) (Modes.settle_of_ne (by simp) _ _) ?_
    intro offset lexeme behind modes' hscan part hpart halike
    have hfound : scanKind? '.' (c :: more ++ rest) =
        some (.kind (String.ofList ((c :: more ++ rest).takeWhile isNameChar)),
          (c :: more ++ rest).dropWhile isNameChar) := if_pos (by simpa using hstart)
    rw [scan, scanValue, if_neg (by decide), hfound] at hscan
    cases hscan
    cases hpart
    cases halike
  | false =>
    have hlegible : value.isLegible = value.isFinite := by
      cases value with
      | identifier word => exact congrArg not hkind
      | array items => cases hscalar
      | _ => rfl
    rw [hlegible]
    refine settles_of_scan hscalar (by simp) hrest fun offset c text htext hbegins => ?_
    rw [htext] at hkind
    rw [scan, scanValue, if_neg hbegins.not_open, scanKind?_eq_none hkind ?_]
    · rfl
    · intro d hd
      have := hrest d hd
      simp only [endsScalar, Bool.or_eq_true, beq_iff_eq] at this
      rcases this with (rfl | rfl) | rfl <;> decide

/-- What is scanned as an identifier is the word that stands there. -/
theorem ScansScalar.readWord_eq {c : Char} {text behind : List Char} {lexeme : Lexeme}
    {part : Part} {word : String} (h : ScansScalar c text lexeme behind)
    (hpart : lexeme.part? = some part) (halike : part.Alike (.scalar (.identifier word))) :
    readWord (c :: text) = (word.toList, behind) := by
  cases h with
  | text =>
    cases hpart
    simp only [Value.ofQuoted] at halike
    split at halike <;> cases halike
  | pattern =>
    obtain ⟨p, -, rfl⟩ := Option.map_eq_some_iff.mp hpart
    cases halike
  | @word found _ _ _ hread =>
    cases hpart
    have hvalue : Value.ofWord (String.ofList found) = .identifier word := by
      change (Value.ofWord (String.ofList found)).beq (.identifier word) = true at halike
      rcases Value.ofWord_cases (String.ofList found) with ⟨_, h⟩ | ⟨_, h⟩ | ⟨_, h⟩ | ⟨_, h⟩ |
        ⟨_, h⟩ | h <;> rw [h] at halike ⊢
      · exact congrArg _ (by simpa [Value.beq] using halike)
      all_goals cases halike
    rw [Value.ofWord_eq_identifier hvalue, String.toList_ofList, hread]

/-- An identifier that begins with an equals sign is misread when it loses it. -/
theorem misreads_scalar_tail (hscalar : value.isScalar = true) {text : List Char}
    (htext : value.spelling = '=' :: text) (pieces : List Piece) :
    Misreads (text ++ [']']) ⟨.value, outer⟩ (⟨.scalar value, .free⟩ :: pieces) rest := by
  obtain ⟨word, rfl⟩ := value.eq_identifier_of_head? hscalar (.inr rfl) (by rw [htext]; rfl)
  have hword : readWord text = (text, []) := by
    have hwhole := (isWord_iff.mp (Bool.and_eq_true_iff.mp hscalar).1).1
    rw [Value.spelling] at htext
    rw [htext, readWord.eq_2 _ _ (by simp), if_neg (by decide)] at hwhole
    simpa [Prod.ext_iff] using hwhole
  obtain ⟨c, more, hcons⟩ : ∃ c more, text ++ [']'] = c :: more :=
    List.exists_cons_of_ne_nil (by simp)
  have hread : readWord (c :: (more ++ rest)) = (text, ']' :: rest) := by
    rw [← List.cons_append, ← hcons, List.append_assoc]
    exact readWord_append hword (by rintro d ⟨⟩; decide)
  -- what ends a word at once is the bracket, so that it is no blank and opens nothing
  have hstop : endsWord c = true → c ≠ '[' → c = ']' := by
    intro hends hopen
    rw [readWord.eq_2 _ _ (fun _ hc => absurd hc hopen), if_pos hends] at hread
    exact (List.cons.inj (Prod.mk.inj hread).2).1
  have hblank : Text.isBlank c = false := by
    refine Bool.eq_false_iff.mpr fun hblank => ?_
    have hopen : c ≠ '[' := by
      rintro rfl
      exact absurd hblank (by decide)
    obtain rfl := hstop (by simp [endsWord, hblank]) hopen
    exact absurd hblank (by decide)
  have hopen : c ≠ '(' := by
    rintro rfl
    exact absurd (hstop (by decide) (by decide)) (by decide)
  rw [hcons]
  refine Misreads.token ⟨.value, outer⟩ hblank (Modes.settle_of_ne (by simp) _ _) ?_
  intro offset lexeme behind modes' hscan part hpart halike
  dsimp only [scan, scanValue] at hscan
  rw [if_neg hopen] at hscan
  split at hscan
  · rename_i hkind
    cases hscan
    obtain ⟨-, rfl, -⟩ := scanKind?_eq_some_iff.mp hkind
    cases hpart
    cases halike
  · have hfound := (scanScalar_eq_ok_iff.mp hscan).1.readWord_eq hpart halike
    have hsame : text = '=' :: text := by
      rw [← htext]
      exact (Prod.mk.inj (hread.symm.trans hfound)).1
    simpa using congrArg List.length hsame

end TreeQuery
