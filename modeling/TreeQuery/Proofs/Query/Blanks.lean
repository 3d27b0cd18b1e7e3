import TreeQuery.Proofs.Query.ErrorPlaces
import TreeQuery.Proofs.Query.Fronts

/-!
# Blanks between tokens

What blanks stand before a token, and how many, makes no difference but to places. Before the token
the lexer stands directly before the blanks; what it has read up to there it would have read before
other blanks too; and the modes in which the token is read depend on whether a blank stands before
it, but not on which one. From the token on nothing but places is different.

## Main definitions and results

* `IsGap` — a run of blanks.
* `Cursor.next_gap`: with other blanks before it a token is the same.
* `tokenize_blanks`: **with other blanks before a token there are the same tokens**, at places moved
  by the difference in length, and the same query or the same error.
-/

namespace TreeQuery

/-! ### Other blanks -/

/-- A run of blanks that stands between two tokens, or at an end of the text. -/
structure IsGap (blanks : List Char) : Prop where
  /-- There is one. -/
  ne_nil : blanks ≠ []
  /-- All are blank. -/
  blank : ∀ c ∈ blanks, Text.isBlank c = true

variable {blanks blanks' : List Char}

/-- With a gap in front, whatever follows begins with a seam. -/
theorem IsGap.seam (h : IsGap blanks) (rest : List Char) : Seam (blanks ++ rest) := by
  obtain ⟨c, others, rfl⟩ := List.exists_cons_of_ne_nil h.ne_nil
  rintro _ ⟨⟩
  exact .inl (h.blank c List.mem_cons_self)

/-- A gap is at least one character wide. -/
theorem IsGap.length_pos (h : IsGap blanks) : 0 < blanks.length := List.length_pos_iff.mpr h.ne_nil

/-- The modes behind a seam are those at the end of the text. -/
theorem settle_of_seam {s : List Char} (hs : Seam s) (mode : Mode) (outer : List Mode) :
    Modes.settle s mode outer = Modes.settle [] mode outer :=
  settle_append hs [] mode outer

/-- Texts that do not end with a blank are the same if they are with blanks behind them. -/
theorem append_blanks_inj {front front' : List Char}
    (h : front ++ blanks = front' ++ blanks')
    (hfront : ∀ c ∈ front.getLast?, Text.isBlank c = false)
    (hfront' : ∀ c ∈ front'.getLast?, Text.isBlank c = false)
    (hblanks : ∀ c ∈ blanks, Text.isBlank c = true)
    (hblanks' : ∀ c ∈ blanks', Text.isBlank c = true) : front = front' ∧ blanks = blanks' := by
  have hnil : ∀ {front more others : List Char}, (∀ c ∈ (front ++ more).getLast?,
      Text.isBlank c = false) → (∀ c ∈ more ++ others, Text.isBlank c = true) → more = [] := by
    intro front more others hlast hblank
    by_contra hne
    rw [List.getLast?_append_of_ne_nil front hne, List.getLast?_eq_some_getLast hne] at hlast
    have hmem := List.mem_append_left others (List.getLast_mem hne)
    have hsolid := hlast _ rfl
    rw [hblank _ hmem] at hsolid
    cases hsolid
  obtain ⟨more, rfl, rfl⟩ | ⟨more, rfl, rfl⟩ := List.append_eq_append_iff.mp h
  · obtain rfl := hnil hfront' hblanks
    simp
  · obtain rfl := hnil hfront hblanks'
    simp

namespace Cursor

variable {cursor behind : Cursor} {token : Token} {tokens : List Token}

/-- **With other blanks before it a token is the same**, at a place moved by the difference. -/
theorem next_gap (h : cursor.next = .ok (token, behind)) :
    ∃ blanks rest, cursor.rest = blanks ++ rest ∧ (∀ c ∈ blanks, Text.isBlank c = true) ∧
      token.offset = cursor.offset + blanks.length ∧
      ∀ {blanks'} {f : Nat → Nat}, IsGap blanks → IsGap blanks' →
        (∀ i, f (cursor.offset + blanks.length + i) = cursor.offset + blanks'.length + i) →
        Cursor.next ⟨blanks' ++ rest, cursor.offset, cursor.modes⟩ =
            .ok (token.relocate f, ⟨behind.rest, f behind.offset, behind.modes⟩) ∧
          ∀ i, f (behind.offset + i) = f behind.offset + i := by
  have hsettled : ∀ {blanks blanks' rest : List Char}, cursor.rest = blanks ++ rest →
      IsGap blanks → IsGap blanks' →
      settled ⟨blanks' ++ rest, cursor.offset, cursor.modes⟩ = cursor.settled := by
    intro blanks blanks' rest hrest hgap hgap'
    rw [settled, settled, hrest, settle_of_seam (hgap'.seam rest), settle_of_seam (hgap.seam rest)]
  have hspaced : ∀ {blanks blanks' : List Char}, IsGap blanks → IsGap blanks' →
      decide (0 < blanks.length) = decide (0 < blanks'.length) := by
    intro blanks blanks' hgap hgap'
    rw [decide_eq_true hgap.length_pos, decide_eq_true hgap'.length_pos]
  cases next_eq_iff.mp h with
  | ends hblanks hexpected =>
    refine ⟨cursor.rest, [], by rw [List.append_nil], hblanks, rfl, ?_⟩
    intro blanks' f hgap hgap' hf
    have hsame := hsettled (by rw [List.append_nil]) hgap hgap'
    rw [← hsame] at hexpected
    have hadvances : Advances ⟨blanks' ++ [], cursor.offset, cursor.modes⟩ _ :=
      .ends (by simpa using hgap'.blank) hexpected
    have hplace :
        f (cursor.offset + cursor.rest.length) = cursor.offset + (blanks' ++ []).length := by
      simpa using hf 0
    refine ⟨next_eq_iff.mpr ?_, fun i => by rw [hf, hplace, List.append_nil]⟩
    rw [Token.relocate, hplace, hspaced hgap hgap', ← hsame]
    simpa using hadvances
  | @takes blanks c text rest lexeme modes hblanks hc hrest hscan =>
    refine ⟨blanks, c :: text, hrest, hblanks, rfl, ?_⟩
    intro blanks' f hgap hgap' hf
    rw [← hsettled hrest hgap hgap'] at hscan
    have hadvances : Advances ⟨blanks' ++ c :: text, cursor.offset, cursor.modes⟩ _ :=
      .takes hgap'.blank hc rfl (scan_place hscan (cursor.offset + blanks'.length))
    refine ⟨next_eq_iff.mpr ?_, fun i => ?_⟩
    · have hplace : f (cursor.offset + blanks.length) = cursor.offset + blanks'.length := hf 0
      rw [Token.relocate, hf, hplace, hspaced hgap hgap']
      exact hadvances
    · rw [Nat.add_assoc (cursor.offset + blanks.length), hf, hf, ← Nat.add_assoc]

end Cursor

variable {cursor : Cursor} {token : Token} {tokens : List Token}

/-- **With other blanks before a token it is the same from there on.** -/
theorem tokensFrom_gap {after : List Token} (h : tokensFrom cursor = .ok (token :: after)) :
    ∃ blanks rest, cursor.rest = blanks ++ rest ∧ (∀ c ∈ blanks, Text.isBlank c = true) ∧
      token.offset = cursor.offset + blanks.length ∧
      ∀ {blanks'} {f : Nat → Nat}, IsGap blanks → IsGap blanks' →
        (∀ i, f (cursor.offset + blanks.length + i) = cursor.offset + blanks'.length + i) →
        tokensFrom ⟨blanks' ++ rest, cursor.offset, cursor.modes⟩ =
          .ok ((token :: after).map (Token.relocate f)) := by
  cases tokensFrom_eq_ok_iff_cuts.mp h with
  | last hnext hlast =>
    obtain ⟨blanks, rest, hrest, hblanks, hoffset, hother⟩ := Cursor.next_gap hnext
    refine ⟨blanks, rest, hrest, hblanks, hoffset, fun hgap hgap' hf => ?_⟩
    exact tokensFrom_eq_ok_iff_cuts.mpr (.last (hother hgap hgap' hf).1 hlast)
  | more hnext hlast hafter =>
    obtain ⟨blanks, rest, hrest, hblanks, hoffset, hother⟩ := Cursor.next_gap hnext
    refine ⟨blanks, rest, hrest, hblanks, hoffset, fun hgap hgap' hf => ?_⟩
    obtain ⟨hnext', hf'⟩ := hother hgap hgap' hf
    have hrest' := tokensFrom_relocate hf' (tokensFrom_eq_ok_iff_cuts.mpr hafter)
    exact tokensFrom_eq_ok_iff_cuts.mpr (.more hnext' hlast (tokensFrom_eq_ok_iff_cuts.mp hrest'))

/-! ### Whole texts -/

variable {pre post : List Char}

/-- **With other blanks before a token there are the same tokens**: those before it at their places,
and those from it on at places moved by the difference in length. -/
theorem tokensFrom_start_blanks {blanks blanks' : List Char}
    (htokens : tokensFrom (.start (pre ++ blanks ++ post)) = .ok tokens) (hmem : token ∈ tokens)
    (hoffset : token.offset = (pre ++ blanks).length)
    (hpre : ∀ c ∈ pre.getLast?, Text.isBlank c = false) (hgap : IsGap blanks)
    (hgap' : IsGap blanks') :
    ∃ before after, tokens = before ++ token :: after ∧
      (∀ t ∈ before, t.offset < pre.length) ∧
      (∀ t ∈ token :: after, (pre ++ blanks).length ≤ t.offset) ∧
      tokensFrom (.start (pre ++ blanks' ++ post)) =
        .ok (before ++ (token :: after).map
          (Token.relocate (· - blanks.length + blanks'.length))) := by
  obtain ⟨before, after, middle, rfl, hrun, hmiddle⟩ := exists_run_of_mem htokens hmem
  obtain ⟨front, htext, hplace⟩ := (Cursor.isIn_start _).run hrun
  obtain ⟨solid, hsolid, hfront⟩ := hrun.consumes
  obtain ⟨spaces, rest, hrest, hspaces, hfirst, hother⟩ := tokensFrom_gap hmiddle
  obtain rfl : front = solid := List.append_cancel_right (htext.symm.trans hsolid)
  -- the token has the blanks before it that the text has there
  have hsplit : pre ++ blanks ++ post = front ++ spaces ++ rest := by
    rw [htext, hrest, List.append_assoc]
  have hlength : (pre ++ blanks).length = (front ++ spaces).length := by
    rw [← hoffset, hfirst, hplace, List.length_append]
  obtain ⟨hjoint, rfl⟩ := List.append_inj hsplit hlength
  obtain ⟨rfl, rfl⟩ := append_blanks_inj hjoint hpre hfront hgap.blank hspaces
  refine ⟨before, after, rfl, hplace ▸ hrun.offset_lt.2, ?_, ?_⟩
  · have hordered := (Cursor.ordered_of_tokensFrom hmiddle).2
    have hafter := (List.pairwise_cons.mp hordered).1
    rw [← hoffset]
    exact List.forall_mem_cons.mpr ⟨Nat.le_refl _, fun t ht => Nat.le_of_lt (hafter t ht)⟩
  · have hbefore : Cursor.Run (.start (pre ++ blanks' ++ post)) before
        ⟨blanks' ++ post, middle.offset, middle.modes⟩ := by
      have hfronts : (Cursor.start (pre ++ blanks ++ post)).rest = pre ++ (blanks ++ post) :=
        List.append_assoc pre blanks post
      have halone := hrun.front (hgap.seam post) hfronts
        (show middle.rest = [] ++ (blanks ++ post) from hrest)
      have hseam := halone.seam (hgap'.seam post)
      rw [List.append_assoc]
      exact hseam
    rw [tokensFrom_of_run hbefore]
    refine ⟨_, hother hgap hgap' fun i => ?_, rfl⟩
    omega

/-- Where a place of a text is when `width'` characters stand for the `width` ones behind an
edge. -/
def placeBehind (edge width width' place : Nat) : Nat :=
  if place < edge then place else place - width + width'

/-- A token whose offset stays in place is the same after it is moved. -/
theorem Token.relocate_eq_self {f : Nat → Nat} (h : f token.offset = token.offset) :
    token.relocate f = token := by
  rw [relocate, h]

/-- **The kind and the number of blanks make no difference but to places.** With other blanks before
a token, a text is cut into the same tokens, and it is the same query or is refused with the same
error: what comes before the blanks is in its place, and what comes behind them is moved by the
difference in length. -/
theorem tokenize_blanks {blanks blanks' : List Char}
    (htokens : tokenize (String.ofList (pre ++ blanks ++ post)) = .ok tokens)
    (hmem : token ∈ tokens) (hoffset : token.offset = (pre ++ blanks).length)
    (hpre : ∀ c ∈ pre.getLast?, Text.isBlank c = false) (hgap : IsGap blanks)
    (hgap' : IsGap blanks') :
    (∃ before after, tokens = before ++ token :: after ∧
      (∀ t ∈ before, t.offset < pre.length) ∧
      (∀ t ∈ token :: after, (pre ++ blanks).length ≤ t.offset) ∧
      tokenize (String.ofList (pre ++ blanks' ++ post)) =
        .ok (before ++ (token :: after).map
          (Token.relocate (· - blanks.length + blanks'.length)))) ∧
      Query.ofText (String.ofList (pre ++ blanks' ++ post)) =
        (Query.ofText (String.ofList (pre ++ blanks ++ post))).mapError
          (ParseError.relocate (placeBehind pre.length blanks.length blanks'.length)) := by
  have hstart : tokensFrom (.start (pre ++ blanks ++ post)) = .ok tokens := by
    rwa [tokenize, String.toList_ofList] at htokens
  obtain ⟨before, after, rfl, hbefore, hafter, hother⟩ :=
    tokensFrom_start_blanks hstart hmem hoffset hpre hgap hgap'
  have htokens' : tokenize (String.ofList (pre ++ blanks' ++ post)) = .ok (before ++
      (token :: after).map (Token.relocate (· - blanks.length + blanks'.length))) := by
    rw [tokenize, String.toList_ofList, hother]
  refine ⟨⟨before, after, rfl, hbefore, hafter, htokens'⟩, ?_⟩
  -- both halves are the tokens at the places that the statement names
  have hkept : before.map (Token.relocate (placeBehind pre.length blanks.length blanks'.length)) =
      before := by
    refine (List.map_congr_left fun t ht => ?_).trans (List.map_id before)
    exact Token.relocate_eq_self (if_pos (hbefore t ht))
  have hmoved : (token :: after).map
      (Token.relocate (placeBehind pre.length blanks.length blanks'.length)) =
        (token :: after).map (Token.relocate (· - blanks.length + blanks'.length)) := by
    refine List.map_congr_left fun t ht => ?_
    have hplace := hafter t ht
    rw [List.length_append] at hplace
    rw [Token.relocate, placeBehind, if_neg (by omega)]
    rfl
  have hall : before ++ (token :: after).map (Token.relocate (· - blanks.length + blanks'.length)) =
      (before ++ token :: after).map
        (Token.relocate (placeBehind pre.length blanks.length blanks'.length)) := by
    rw [List.map_append, hkept, hmoved]
  have htext : Query.ofText (String.ofList (pre ++ blanks ++ post)) =
      Query.ofTokens (before ++ token :: after) := by
    rw [Query.ofText, htokens]
    rfl
  have htext' : Query.ofText (String.ofList (pre ++ blanks' ++ post)) =
      Query.ofTokens ((before ++ token :: after).map
        (Token.relocate (placeBehind pre.length blanks.length blanks'.length))) := by
    rw [Query.ofText, htokens', hall]
    rfl
  rw [htext, htext']
  rcases Query.ofTokens_relocate (placeBehind pre.length blanks.length blanks'.length)
      (endsQuery_of_tokensFrom hstart) with ⟨query, h, h'⟩ | ⟨_, _, error, _, h, h'⟩
  · rw [h, h']
    rfl
  · rw [h, h']
    rfl

/-- The tokens of two kinds with a blank between them, in a text that ends with a blank. -/
def kindsTokens : List Token :=
  [⟨.kind "a", 0, false⟩, ⟨.kind "b", 3, true⟩, ⟨.endOfQuery, 6, true⟩]

/-- The tokens of the two kinds, as the lexer cuts them. -/
theorem tokenize_kinds : tokenize (String.ofList (".a".toList ++ [' '] ++ ".b ".toList)) =
    .ok kindsTokens := by
  cbv

/-- Two blanks of other kinds between the two kinds. -/
theorem tokenize_blanks_kinds :
    tokenize (String.ofList (".a".toList ++ [' '] ++ ".b ".toList)) = .ok kindsTokens ∧
      ⟨.kind "b", 3, true⟩ ∈ kindsTokens ∧ IsGap [' '] ∧ IsGap ['\n', Char.ofNat 0x3000] ∧
      (∃ before after, kindsTokens = before ++ ⟨.kind "b", 3, true⟩ :: after ∧
        (∀ t ∈ before, t.offset < 2) ∧ (∀ t ∈ ⟨.kind "b", 3, true⟩ :: after, 3 ≤ t.offset) ∧
        tokenize (String.ofList (".a".toList ++ ['\n', Char.ofNat 0x3000] ++ ".b ".toList)) =
          .ok (before ++ (⟨.kind "b", 3, true⟩ :: after).map (Token.relocate (· - 1 + 2)))) ∧
      Query.ofText (String.ofList (".a".toList ++ ['\n', Char.ofNat 0x3000] ++ ".b ".toList)) =
        (Query.ofText (String.ofList (".a".toList ++ [' '] ++ ".b ".toList))).mapError
          (ParseError.relocate (placeBehind 2 1 2)) := by
  have hgap : IsGap [' '] := ⟨by simp, List.forall_mem_singleton.mpr (by decide)⟩
  have hgap' : IsGap ['\n', Char.ofNat 0x3000] :=
    ⟨by simp, List.forall_mem_cons.mpr ⟨by decide, List.forall_mem_singleton.mpr (by decide)⟩⟩
  have hpre : ∀ c ∈ ".a".toList.getLast?, Text.isBlank c = false := by
    rintro c hc
    obtain rfl : 'a' = c := Option.some.inj hc
    decide
  have hmem : ⟨.kind "b", 3, true⟩ ∈ kindsTokens := by simp [kindsTokens]
  exact ⟨tokenize_kinds, hmem, hgap, hgap', tokenize_blanks tokenize_kinds hmem rfl hpre hgap hgap'⟩

end TreeQuery
