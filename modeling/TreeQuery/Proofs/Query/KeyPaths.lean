import TreeQuery.Proofs.Number.ReadBack
import TreeQuery.Proofs.Query.Grammatical
import TreeQuery.Query.Token

/-!
# Key paths and their spelling

Pieces between dots become segments, and a segment is spelled by a piece. A path whose segments
are **canonical** is spelled by a text that it is read from again.

## Main results

* `KeyPath.ofChars_spelling`: a path of canonical segments is read from its spelling.
* `KeyPath.ofChars_spelling_ofChars`: **so is the path of any text**.
* `KeyPath.segments_ofChars_append`: a dot between two texts puts their paths in a row.
* `KeyPath.isWritten_ofChars`, `KeyPath.isScope_ofChars`: what the lexer takes for a key or a scope
  is one.
* `KeyPath.count_star_spelling`: reading and spelling keep the stars of a path.
-/

namespace TreeQuery

/-! ### Pieces between dots -/

/-- Cutting a text at its dots is splitting it on the character. -/
theorem splitAtDots_eq_splitOn (text : List Char) : splitAtDots text = text.splitOn '.' := by
  induction text with
  | nil => rfl
  | cons c rest ih =>
    rw [splitAtDots, List.splitOn_cons_eq_if_modifyHead, ih]
    by_cases h : c = '.'
    · rw [if_pos h, if_pos (beq_iff_eq.mpr h)]
    · obtain ⟨piece, pieces, hsplit⟩ := List.exists_cons_of_ne_nil (List.splitOn_ne_nil '.' rest)
      rw [if_neg h, if_neg (by simpa using h), hsplit]
      rfl

/-- With a dot between them, two texts are cut into the pieces of each. -/
theorem splitAtDots_append (a b : List Char) :
    splitAtDots (a ++ '.' :: b) = splitAtDots a ++ splitAtDots b := by
  induction a with
  | nil => rfl
  | cons c a ih =>
    rw [List.cons_append, splitAtDots, splitAtDots, ih]
    split
    · rfl
    · obtain ⟨piece, pieces, hsplit⟩ : ∃ piece pieces, splitAtDots a = piece :: pieces :=
        List.exists_cons_of_ne_nil (by simp [splitAtDots_eq_splitOn])
      rw [hsplit]
      rfl

/-- A piece holds characters of the text, and no dot. -/
theorem mem_of_mem_splitAtDots {text piece : List Char} (h : piece ∈ splitAtDots text) :
    ∀ c ∈ piece, c ∈ text ∧ c ≠ '.' := by
  induction text generalizing piece with
  | nil =>
    obtain rfl : piece = [] := by simpa [splitAtDots] using h
    simp
  | cons c rest ih =>
    rw [splitAtDots] at h
    split at h
    · rcases List.mem_cons.mp h with rfl | h
      · simp
      · exact fun d hd => ⟨List.mem_cons_of_mem _ (ih h d hd).1, (ih h d hd).2⟩
    · rename_i hdot
      split at h
      · rename_i first pieces hsplit
        rw [hsplit] at ih
        rcases List.mem_cons.mp h with rfl | h
        · intro d hd
          rcases List.mem_cons.mp hd with rfl | hd
          · exact ⟨List.mem_cons_self, hdot⟩
          · have := ih List.mem_cons_self d hd
            exact ⟨List.mem_cons_of_mem _ this.1, this.2⟩
        · intro d hd
          have := ih (List.mem_cons_of_mem _ h) d hd
          exact ⟨List.mem_cons_of_mem _ this.1, this.2⟩
      · rename_i hsplit
        exact absurd hsplit (by simp [splitAtDots_eq_splitOn])

/-! ### Canonical segments -/

/-- A segment is canonical when its spelling is a piece that is read as the segment. -/
structure Segment.IsCanonical (segment : Segment) : Prop where
  /-- The spelling is not empty. -/
  ne_nil : segment.spelling ≠ []
  /-- The spelling has no dot. -/
  no_dot : '.' ∉ segment.spelling
  /-- The spelling is read as the segment. -/
  ofChars_spelling : Segment.ofChars segment.spelling = segment

/-- A text that is read as an index holds only digits and signs. -/
theorem isDigit_or_sign_of_readInt64? {text : List Char} {value : Int64}
    (h : readInt64? 10 text = some value) : ∀ c ∈ text, c.isDigit = true ∨ c = '-' ∨ c = '+' := by
  have hdigits : ∀ c ∈ (splitSign text).2, c.isDigit = true := by
    unfold readInt64? at h
    cases hread : readNat? 10 (splitSign text).2 with
    | none => simp [hread] at h
    | some n =>
      rw [readNat?] at hread
      split at hread
      · cases hread
      · exact isDigit_of_readDigits? hread
  intro c hc
  unfold splitSign at hdigits
  split at hdigits
  · rcases List.mem_cons.mp hc with rfl | hc
    · exact .inr (.inl rfl)
    · exact .inl (hdigits c hc)
  · rcases List.mem_cons.mp hc with rfl | hc
    · exact .inr (.inr rfl)
    · exact .inl (hdigits c hc)
  · exact .inl (hdigits c hc)

/-- The spelling of an integer is not empty. -/
theorem integerSpelling_ne_nil (n : Int) : integerSpelling n ≠ [] := by
  unfold integerSpelling
  split <;> simp

/-- An integer is spelled with digits and a minus sign alone. -/
theorem not_mem_integerSpelling {n : Int} {c : Char} (hdigit : c.isDigit = false)
    (hsign : c ≠ '-') :
    c ∉ integerSpelling n := by
  intro h
  rcases mem_integerSpelling h with h | h
  · rw [h] at hdigit
    cases hdigit
  · exact hsign h

/-- The spelling of an index is read as the index. -/
theorem Segment.ofChars_integerSpelling (position : Int64) :
    Segment.ofChars (integerSpelling position.toInt) = .index position := by
  have hstar : integerSpelling position.toInt ≠ ['*'] := by
    intro h
    have hmem : '*' ∈ integerSpelling position.toInt := by
      rw [h]
      exact List.mem_cons_self
    exact not_mem_integerSpelling rfl (by decide) hmem
  rw [Segment.ofChars, if_neg hstar, readInt64?_integerSpelling]

namespace Segment.IsCanonical

/-- An index is canonical. -/
theorem index (position : Int64) : (Segment.index position).IsCanonical :=
  ⟨integerSpelling_ne_nil _, not_mem_integerSpelling rfl (by decide), ofChars_integerSpelling _⟩

/-- The wildcard is canonical. -/
theorem wildcard : Segment.wildcard.IsCanonical := ⟨by decide, by decide, rfl⟩

/-- A name is canonical if it is a piece that is neither a wildcard nor an index. -/
theorem name {text : String} (hne : text.toList ≠ []) (hdot : '.' ∉ text.toList)
    (hstar : text.toList ≠ ['*']) (hindex : readInt64? 10 text.toList = none) :
    (Segment.name text).IsCanonical := by
  refine ⟨hne, hdot, ?_⟩
  rw [spelling, Segment.ofChars, if_neg hstar, hindex, String.ofList_toList]

/-- A segment that a key path spells is canonical. -/
theorem of_isWritten {segment : Segment} (h : segment.isWritten = true) : segment.IsCanonical := by
  cases segment with
  | name text =>
    simp only [isWritten, Bool.and_eq_true, Bool.not_eq_true', List.isEmpty_eq_false_iff,
      List.all_eq_true, bne_iff_ne, Option.isNone_iff_eq_none] at h
    obtain ⟨⟨⟨hne, hall⟩, hstar⟩, hindex⟩ := h
    exact name hne (fun hdot => (hall '.' hdot).2 rfl) hstar hindex
  | index position => exact index position
  | wildcard => exact wildcard

end Segment.IsCanonical

/-- **Every piece is read as a canonical segment**, whatever its spelling. -/
theorem Segment.isCanonical_ofChars {piece : List Char} (hne : piece ≠ []) (hdot : '.' ∉ piece) :
    (Segment.ofChars piece).IsCanonical := by
  rw [Segment.ofChars]
  split
  · exact .wildcard
  · rename_i hstar
    cases hindex : readInt64? 10 piece with
    | some position => exact .index position
    | none =>
      rw [← String.toList_ofList (l := piece)] at hne hdot hstar hindex
      exact .name hne hdot hstar hindex

/-- Every piece is read as a segment that is written, if its characters may stand in a path. -/
theorem Segment.isWritten_ofChars {piece : List Char} (hne : piece ≠ [])
    (h : ∀ c ∈ piece, isPathChar c = true ∧ c ≠ '.') :
    (Segment.ofChars piece).isWritten = true := by
  unfold Segment.ofChars
  split
  · rfl
  · split
    · rfl
    · rename_i hstar _ hindex
      simp only [isWritten, String.toList_ofList, Bool.and_eq_true, Bool.not_eq_true',
        List.isEmpty_eq_false_iff, List.all_eq_true, bne_iff_ne, Option.isNone_iff_eq_none]
      exact ⟨⟨⟨hne, h⟩, hstar⟩, hindex⟩

/-! ### Paths -/

namespace KeyPath

/-- **A path of canonical segments is read from its spelling.** -/
theorem ofChars_spelling {path : KeyPath} (h : ∀ s ∈ path.segments, s.IsCanonical) :
    ofChars path.spelling = path := by
  obtain ⟨segments⟩ := path
  unfold ofChars spelling
  rw [splitAtDots_eq_splitOn]
  congr
  dsimp only at h ⊢
  cases segments with
  | nil => rfl
  | cons first rest =>
    rw [List.splitOn_intercalate '.' ?_ (by simp), List.filter_eq_self.mpr ?_, List.map_map]
    · exact (List.map_congr_left fun s hs => (h s hs).ofChars_spelling).trans (List.map_id _)
    · intro piece hpiece
      obtain ⟨s, hs, rfl⟩ := List.mem_map.mp hpiece
      simpa using (h s hs).ne_nil
    · intro piece hpiece
      obtain ⟨s, hs, rfl⟩ := List.mem_map.mp hpiece
      exact (h s hs).no_dot

/-- A dot between two texts puts their paths in a row. -/
theorem segments_ofChars_append (a b : List Char) :
    (ofChars (a ++ '.' :: b)).segments = (ofChars a).segments ++ (ofChars b).segments := by
  simp [ofChars, splitAtDots_append]

/-- A segment of the path of a text is read from a piece of the text. -/
theorem exists_piece_of_mem_segments {text : List Char} {segment : Segment}
    (h : segment ∈ (ofChars text).segments) :
    ∃ piece, piece ≠ [] ∧ (∀ c ∈ piece, c ∈ text ∧ c ≠ '.') ∧ Segment.ofChars piece = segment := by
  obtain ⟨piece, hpiece, rfl⟩ := List.mem_map.mp h
  obtain ⟨hpiece, hne⟩ := List.mem_filter.mp hpiece
  exact ⟨piece, by simpa using hne, mem_of_mem_splitAtDots hpiece, rfl⟩

/-- **The path of a text is read from its spelling again**, whatever dots, signs and leading zeros
the text has. -/
theorem ofChars_spelling_ofChars (text : List Char) :
    ofChars (ofChars text).spelling = ofChars text := by
  refine ofChars_spelling fun segment hsegment => ?_
  obtain ⟨piece, hne, hpiece, rfl⟩ := exists_piece_of_mem_segments hsegment
  exact Segment.isCanonical_ofChars hne fun hdot => (hpiece '.' hdot).2 rfl

/-- A path of segments that a key path spells is read from its spelling. -/
theorem ofChars_spelling_of_isWritten {path : KeyPath} (h : path.isWritten = true) :
    ofChars path.spelling = path :=
  ofChars_spelling fun s hs => .of_isWritten (List.all_eq_true.mp h s hs)

/-- What is read from characters of a path is a path that can be spelled. -/
theorem isWritten_ofChars {text : List Char} (h : ∀ c ∈ text, isPathChar c = true) :
    (ofChars text).isWritten = true := by
  rw [isWritten, List.all_eq_true]
  intro segment hsegment
  obtain ⟨piece, hne, hpiece, rfl⟩ := exists_piece_of_mem_segments hsegment
  exact Segment.isWritten_ofChars hne fun c hc => ⟨h c (hpiece c hc).1, (hpiece c hc).2⟩

/-! ### Scopes -/

/-- A piece that begins as a name is read as a name. -/
theorem ofChars_of_isNameStart {c : Char} {piece : List Char} (h : isNameStart c = true) :
    Segment.ofChars (c :: piece) = .name (String.ofList (c :: piece)) := by
  have hstar : c :: piece ≠ ['*'] := by
    rintro heq
    cases heq
    exact absurd h (by decide)
  cases hindex : readInt64? 10 (c :: piece) with
  | none => rw [Segment.ofChars, if_neg hstar, hindex]
  | some position =>
    rcases isDigit_or_sign_of_readInt64? hindex c List.mem_cons_self with hdigit | rfl | rfl
    · rw [not_isNameStart_of_isDigit hdigit] at h
      cases h
    · exact absurd h (by decide)
    · exact absurd h (by decide)

/-- What begins as a name and goes on with characters of a path is read as a scope. -/
theorem isScope_ofChars {c : Char} {rest : List Char} (hc : isNameStart c = true)
    (hpath : isPathChar c = true) (h : ∀ d ∈ rest, isPathChar d = true) :
    (ofChars (c :: rest)).isScope = true := by
  have hwritten : (ofChars (c :: rest)).isWritten = true := by
    refine isWritten_ofChars fun d hd => ?_
    rcases List.mem_cons.mp hd with rfl | hd
    · exact hpath
    · exact h d hd
  have hdot : c ≠ '.' := by
    rintro rfl
    exact absurd hc (by decide)
  obtain ⟨piece, pieces, hsplit⟩ : ∃ piece pieces, splitAtDots rest = piece :: pieces :=
    List.exists_cons_of_ne_nil (by simp [splitAtDots_eq_splitOn])
  have hsegments : (ofChars (c :: rest)).segments =
      .name (String.ofList (c :: piece)) ::
        (pieces.filter fun piece => !piece.isEmpty).map Segment.ofChars := by
    simp [ofChars, splitAtDots, hdot, hsplit, ofChars_of_isNameStart hc]
  rw [isScope, hwritten, hsegments]
  simp [hc]

/-! ### Stars -/

/-- The spelling of an integer has no star. -/
theorem count_star_integerSpelling (n : Int) : (integerSpelling n).count '*' = 0 :=
  List.count_eq_zero.mpr (not_mem_integerSpelling rfl (by decide))

/-- A segment has the stars of the piece from which it is read. -/
theorem count_star_segment (piece : List Char) :
    (Segment.ofChars piece).spelling.count '*' = piece.count '*' := by
  unfold Segment.ofChars
  split
  · rename_i h
    rw [h]
    rfl
  · split
    · rename_i position h
      rw [Segment.spelling, count_star_integerSpelling, List.count_eq_zero.mpr]
      intro hmem
      rcases isDigit_or_sign_of_readInt64? h _ hmem with h | h | h <;> revert h <;> decide
    · rw [Segment.spelling, String.toList_ofList]

/-- Dots put between pieces add no star. -/
theorem count_star_intercalate (pieces : List (List Char)) :
    (['.'].intercalate pieces).count '*' = (pieces.map (List.count '*')).sum := by
  induction pieces with
  | nil => rfl
  | cons piece rest ih =>
    cases rest with
    | nil => simp
    | cons next rest =>
      rw [List.intercalate_cons_cons, List.count_append, ih]
      simp

/-- The pieces that are left out for being empty have no star. -/
theorem sum_count_filter_nonempty (pieces : List (List Char)) :
    ((pieces.filter fun piece => !piece.isEmpty).map (List.count '*')).sum =
      (pieces.map (List.count '*')).sum := by
  induction pieces with
  | nil => rfl
  | cons piece rest ih =>
    cases piece with
    | nil => simpa using ih
    | cons c piece => simpa using ih

/-- **Reading and spelling keep the stars of a path**, whatever dots and leading zeros they drop. -/
theorem count_star_spelling (text : List Char) :
    (ofChars text).spelling.count '*' = text.count '*' := by
  have hpieces : ((splitAtDots text).filter fun piece => !piece.isEmpty).map
      ((List.count '*' ∘ Segment.spelling) ∘ Segment.ofChars) =
      ((splitAtDots text).filter fun piece => !piece.isEmpty).map (List.count '*') :=
    List.map_congr_left fun piece _ => count_star_segment piece
  rw [spelling, count_star_intercalate, ofChars, List.map_map, List.map_map, hpieces,
    sum_count_filter_nonempty, ← count_star_intercalate, splitAtDots_eq_splitOn,
    List.intercalate_splitOn]

end KeyPath

end TreeQuery
