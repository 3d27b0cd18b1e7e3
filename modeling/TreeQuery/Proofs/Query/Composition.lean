import TreeQuery.Proofs.Query.Acceptance
import TreeQuery.Proofs.Query.Fronts

/-!
# Queries put together from texts

What a text means does not depend on where it stands. The text of a query before a seam is read as
the pieces of that query, on top of whatever modes; so texts of queries with a comma between them
spell the union of the queries, texts with a blank between them spell one chain out of two, and the
text in the parentheses of a pseudo class spells what is looked for.

## Main definitions and results

* `Query.Fragment` — a text that is read as the pieces of a query wherever it stands.
* `Query.fragment_of_ofText`: the text of a query is such a text.
* `Query.ofText_compose`: **the meaning of a composed text is composed of the meanings of its
  parts**.
-/

namespace TreeQuery

/-! ### The end of a query -/

/-- Nothing but blanks stands before the end of a query. -/
theorem Cursor.isBlank_of_next_endOfQuery {cursor final : Cursor} {last : Token}
    (h : cursor.next = .ok (last, final)) (hlast : last.lexeme = .endOfQuery) :
    ∀ c ∈ cursor.rest, Text.isBlank c = true := by
  cases Cursor.next_eq_iff.mp h with
  | ends hblanks _ => exact hblanks
  | takes _ _ _ hscan =>
    obtain rfl : _ = Lexeme.endOfQuery := hlast
    cases after?_of_scan hscan

/-- The tokens that spell pieces and are written out stand where they may. -/
theorem stand_of_spells {tokens : List Token} {pieces : List Piece} (hw : AreWritten tokens)
    (h : Spells tokens pieces []) : Stand tokens := by
  generalize hrest : ([] : List Token) = rest at h
  induction h with
  | nil => exact hrest ▸ fun _ hmem => absurd hmem List.not_mem_nil
  | cons hfits _ ih =>
    exact List.forall_mem_cons.mpr ⟨⟨_, hfits.part, hw.head hfits.part⟩, ih hw.tail hrest⟩

/-- A text that is read as the pieces of a query **before every seam and on top of all modes**, with
blanks behind it. -/
structure Query.Fragment (query : Query) (front blanks : List Char) : Prop where
  /-- The query is grammatical. -/
  grammatical : query.isGrammatical = true
  /-- Nothing but blanks stands behind. -/
  isBlank : ∀ c ∈ blanks, Text.isBlank c = true
  /-- The text is read as the pieces of the query. -/
  reads : ∀ base s, Seam s → Reads front ⟨.selector, base⟩ (Chain.listPieces query) (blanks ++ s)
    ⟨.selector, base⟩

/-- **The text of a query is a fragment** with the blanks at its end behind it. -/
theorem Query.fragment_of_ofText {text : String} {query : Query} (h : ofText text = .ok query) :
    ∃ front blanks, text.toList = front ++ blanks ∧ query.Fragment front blanks := by
  obtain ⟨_, _, _, htokens, -⟩ := ofText_eq_ok_iff.mp h
  obtain ⟨tokens, last, behind, rfl, hlast, hrun, final, hfinal⟩ :=
    exists_run_of_tokensFrom htokens
  obtain ⟨hgrammatical, hspells⟩ := spells_of_ofText htokens hrun.ne_endOfQuery h
  have hstand : Stand tokens := stand_of_spells
    (fun token hmem => areWritten_tokensFrom htokens token (List.mem_append_left _ hmem)) hspells
  obtain ⟨hnests, hmodes, -⟩ :=
    (derives hgrammatical hspells).leadsBack [] _ behind tokens rfl hstand hrun rfl
  obtain ⟨front, htext, -⟩ := hrun.consumes
  refine ⟨front, behind.rest, htext, hgrammatical,
    Cursor.isBlank_of_next_endOfQuery hfinal hlast, ?_⟩
  intro base s hseam offset
  have hplace : ∀ i, offset + ((Cursor.start text.toList).offset + i) = offset + i :=
    fun i => congrArg (offset + ·) (Nat.zero_add i)
  obtain ⟨hrun', -⟩ := (hnests.run_seam hseam base).relocate (f := (offset + ·)) hplace
  rw [hmodes] at hrun'
  rw [← List.append_assoc, ← htext]
  exact ⟨_, _, hrun', hspells.relocate _⟩

/-! ### Blanks -/

variable {text rest : List Char} {modes modes' : Modes} {part : Part} {pieces : List Piece}

/-- Blanks before a text that is read change nothing. -/
theorem Reads.blanks {blanks : List Char} (hblanks : ∀ c ∈ blanks, Text.isBlank c = true)
    (hmode : modes.current ≠ .valueSelector)
    (h : Reads text modes (⟨part, .free⟩ :: pieces) rest modes') :
    Reads (blanks ++ text) modes (⟨part, .free⟩ :: pieces) rest modes' := by
  induction blanks with
  | nil => exact h
  | cons c blanks ih =>
    obtain ⟨hc, hothers⟩ := List.forall_mem_cons.mp hblanks
    exact (ih hothers).blank hc hmode rfl

/-- Blanks before a text that is read, at least one of them, set it apart from any selector. -/
theorem Reads.separate {blanks : List Char} (hblanks : ∀ c ∈ blanks, Text.isBlank c = true)
    (hne : blanks ≠ []) (hmode : modes.current ≠ .valueSelector) (taken : Part → Bool)
    (h : Reads text modes (⟨part, .free⟩ :: pieces) rest modes') :
    Reads (blanks ++ text) modes (Piece.separate taken (⟨part, .free⟩ :: pieces)) rest modes' := by
  obtain ⟨c, others, rfl⟩ := List.exists_cons_of_ne_nil hne
  obtain ⟨hc, hothers⟩ := List.forall_mem_cons.mp hblanks
  have hread := h.blanks hothers hmode
  rw [Piece.separate]
  split
  · exact hread.blank hc hmode rfl
  · exact hread.blank hc hmode rfl

/-! ### Pieces of composed queries -/

/-- Setting apart the first piece of a row changes nothing in what is behind the row. -/
theorem Piece.separate_append {taken : Part → Bool} {pieces : List Piece} (h : pieces ≠ [])
    (more : List Piece) : separate taken (pieces ++ more) = separate taken pieces ++ more := by
  obtain ⟨piece, pieces, rfl⟩ := List.exists_cons_of_ne_nil h
  rfl

/-- The union of two queries meets demands exactly when both of them do. -/
theorem Chain.allMeet_append (demands : Demands) (query query' : Query) :
    Chain.allMeet demands (query ++ query') =
      (Chain.allMeet demands query && Chain.allMeet demands query') := by
  induction query with
  | nil => rfl
  | cons chain query ih => rw [List.cons_append, allMeet, allMeet, ih, Bool.and_assoc]

/-- A chain that goes on with another one meets demands exactly when both of them do. -/
theorem Chain.meets_append (demands : Demands) :
    ∀ chain behind : Chain,
      (chain.append behind).meets demands = (chain.meets demands && behind.meets demands)
  | .last selector, behind => by rw [append, meets, meets]
  | .link selector rest, behind => by
    rw [append, meets, meets, meets_append demands rest behind, Bool.and_assoc]

/-- A grammatical chain has pieces. -/
theorem Chain.pieces_ne_nil {chain : Chain} (h : chain.meets grammar = true) :
    chain.pieces ≠ [] := by
  obtain ⟨part, pieces, hpieces, -⟩ := exists_pieces_eq_cons h
  simp [hpieces]

/-- A chain behind another one is set apart from its last selector. -/
theorem Chain.pieces_append :
    ∀ chain behind : Chain, chain.meets grammar = true →
      (chain.append behind).pieces =
        chain.pieces ++ Piece.separate chain.final.takes behind.pieces
  | .last selector, behind, _ => by rw [append, pieces, pieces, final]
  | .link selector rest, behind, h => by
    rw [meets, Bool.and_eq_true] at h
    rw [append, pieces, pieces, final, pieces_append rest behind h.2,
      Piece.separate_append (pieces_ne_nil h.2), List.append_assoc]

/-- The pieces of a union are those of the two queries, with a comma between them. -/
theorem Chain.listPieces_append {query query' : Query} (h : query ≠ []) (h' : query' ≠ []) :
    Chain.listPieces (query ++ query') =
      Chain.listPieces query ++ ⟨.comma, .free⟩ :: Chain.listPieces query' := by
  induction query with
  | nil => exact absurd rfl h
  | cons chain query ih =>
    by_cases hnil : query = []
    · subst hnil
      exact listPieces_cons h'
    · rw [List.cons_append, listPieces_cons (by simp [hnil]), listPieces_cons hnil, ih hnil,
        List.append_assoc]
      rfl

/-- The last chain of a query goes on with the first one of another query. -/
theorem Chain.listPieces_join (front : Query) {last first : Chain} (behind : Query)
    (hlast : last.meets grammar = true) (hfirst : first.meets grammar = true) :
    Chain.listPieces (front ++ last.append first :: behind) =
      Chain.listPieces (front ++ [last]) ++
        Piece.separate last.final.takes (Chain.listPieces (first :: behind)) := by
  have hone : Chain.listPieces (last.append first :: behind) =
      last.pieces ++ Piece.separate last.final.takes (Chain.listPieces (first :: behind)) := by
    by_cases hnil : behind = []
    · subst hnil
      exact pieces_append last first hlast
    · rw [listPieces_cons hnil, listPieces_cons hnil, pieces_append last first hlast,
        Piece.separate_append (pieces_ne_nil hfirst), List.append_assoc]
  by_cases hnil : front = []
  · subst hnil
    exact hone
  · rw [listPieces_append hnil (by simp), listPieces_append hnil (by simp), hone,
      List.append_assoc]
    rfl

/-! ### Composed texts -/

namespace Query

/-- The first piece of a grammatical query may stand anywhere. -/
theorem exists_listPieces_eq_cons {query : Query} (h : query.isGrammatical = true) :
    ∃ part pieces, Chain.listPieces query = ⟨part, .free⟩ :: pieces := by
  obtain ⟨hne, hmeets⟩ := isGrammatical_iff.mp h
  obtain ⟨chain, behind, rfl⟩ := List.exists_cons_of_ne_nil hne
  rw [Chain.allMeet, Bool.and_eq_true] at hmeets
  obtain ⟨part, pieces, hpieces, -⟩ := Chain.exists_pieces_eq_cons hmeets.1
  by_cases hnil : behind = []
  · subst hnil
    exact ⟨part, pieces, hpieces⟩
  · exact ⟨part, _, by rw [Chain.listPieces_cons hnil, hpieces, List.cons_append]⟩

variable {text text' : String} {query query' : Query}

/-- Texts of queries with a comma between them are a text of their union. -/
theorem ofText_comma (h : ofText text = .ok query) (h' : ofText text' = .ok query') :
    ofText (text ++ ", " ++ text') = .ok (query ++ query') := by
  obtain ⟨front, blanks, htext, hfragment⟩ := fragment_of_ofText h
  obtain ⟨front', blanks', htext', hfragment'⟩ := fragment_of_ofText h'
  obtain ⟨hne, hmeets⟩ := isGrammatical_iff.mp hfragment.grammatical
  obtain ⟨hne', hmeets'⟩ := isGrammatical_iff.mp hfragment'.grammatical
  have hgrammar : isGrammatical (query ++ query') = true := by
    refine isGrammatical_iff.mpr ⟨by simp [hne], ?_⟩
    rw [Chain.allMeet_append, hmeets, hmeets']
    rfl
  have hfirst : Reads front ⟨.selector, []⟩ (Chain.listPieces query)
      (blanks ++ [','] ++ ([' '] ++ front') ++ blanks') ⟨.selector, []⟩ := by
    simpa using hfragment.reads [] (',' :: ' ' :: (front' ++ blanks')) (by rintro c ⟨⟩; simp)
  have hcomma : Reads (blanks ++ [',']) ⟨.selector, []⟩ [⟨.comma, .free⟩]
      ([' '] ++ front' ++ blanks') ⟨.selector, []⟩ :=
    Reads.blanks hfragment.isBlank (by simp) reads_comma
  have hsecond : Reads ([' '] ++ front') ⟨.selector, []⟩ (Chain.listPieces query') blanks'
      ⟨.selector, []⟩ := by
    obtain ⟨part, pieces, hpieces⟩ := exists_listPieces_eq_cons hfragment'.grammatical
    have hread := hfragment'.reads [] [] (by rintro c ⟨⟩)
    rw [List.append_nil, hpieces] at hread
    rw [hpieces]
    exact hread.blanks (List.forall_mem_singleton.mpr (by decide)) (by simp)
  refine ofText_of_reads ?_ hfragment'.isBlank hgrammar
    (Chain.listPieces_append hne hne' ▸ hfirst.append (hcomma.append hsecond))
  simp [htext, htext']

/-- Texts of queries with a blank between them are a text in which the last chain of the one goes on
with the first chain of the other. -/
theorem ofText_blank {front' behind : Query} {last first : Chain}
    (h : ofText text = .ok (front' ++ [last])) (h' : ofText text' = .ok (first :: behind)) :
    ofText (text ++ " " ++ text') = .ok (front' ++ last.append first :: behind) := by
  obtain ⟨front, blanks, htext, hfragment⟩ := fragment_of_ofText h
  obtain ⟨back, blanks', htext', hfragment'⟩ := fragment_of_ofText h'
  obtain ⟨-, hmeets⟩ := isGrammatical_iff.mp hfragment.grammatical
  obtain ⟨-, hmeets'⟩ := isGrammatical_iff.mp hfragment'.grammatical
  rw [Chain.allMeet_append, Chain.allMeet, Chain.allMeet, Bool.and_true, Bool.and_eq_true] at hmeets
  rw [Chain.allMeet, Bool.and_eq_true] at hmeets'
  have hgrammar : isGrammatical (front' ++ last.append first :: behind) = true := by
    refine isGrammatical_iff.mpr ⟨by simp, ?_⟩
    rw [Chain.allMeet_append, Chain.allMeet, Chain.meets_append, hmeets.1, hmeets.2, hmeets'.1,
      hmeets'.2]
    rfl
  have hfirst : Reads front ⟨.selector, []⟩ (Chain.listPieces (front' ++ [last]))
      (blanks ++ [' '] ++ back ++ blanks') ⟨.selector, []⟩ := by
    simpa using hfragment.reads [] (' ' :: (back ++ blanks'))
      (by rintro c ⟨⟩; exact .inl (by decide))
  have hsecond : Reads (blanks ++ [' '] ++ back) ⟨.selector, []⟩
      (Piece.separate last.final.takes (Chain.listPieces (first :: behind))) blanks'
      ⟨.selector, []⟩ := by
    obtain ⟨part, pieces, hpieces⟩ := exists_listPieces_eq_cons hfragment'.grammatical
    have hread := hfragment'.reads [] [] (by rintro c ⟨⟩)
    rw [List.append_nil, hpieces] at hread
    rw [hpieces]
    refine hread.separate ?_ (by simp) (by simp) last.final.takes
    intro c hc
    rcases List.mem_append.mp hc with hc | hc
    · exact hfragment.isBlank c hc
    · obtain rfl := List.mem_singleton.mp hc
      decide
  refine ofText_of_reads ?_ hfragment'.isBlank hgrammar
    (Chain.listPieces_join front' behind hmeets.2 hmeets'.1 ▸ hfirst.append hsecond)
  simp [htext, htext']

/-- The text of a query in the parentheses of a pseudo class is a text of what the pseudo class
looks for. -/
theorem ofText_pseudo {kind : String} (hkind : isKindName kind = true) (pseudoClass : PseudoClass)
    (h : ofText text = .ok query) :
    ofText ("." ++ kind ++ (":" ++ pseudoClass.name ++ "(") ++ text ++ ")") =
      .ok [.last { kindTest := some ⟨kind, []⟩, pseudoTest := some ⟨pseudoClass, query⟩ }] := by
  obtain ⟨front, blanks, htext, hfragment⟩ := fragment_of_ofText h
  obtain ⟨hne, hmeets⟩ := isGrammatical_iff.mp hfragment.grammatical
  have hgrammar : isGrammatical
      [.last { kindTest := some ⟨kind, []⟩, pseudoTest := some ⟨pseudoClass, query⟩ }] = true := by
    refine isGrammatical_iff.mpr ⟨by simp, ?_⟩
    rw [Chain.allMeet, Chain.allMeet, Bool.and_true, Chain.meets]
    refine Selector.meets_iff.mpr ⟨hkind, by simp, by simp [Attribute.allMeet], ?_⟩
    rintro _ ⟨⟩
    exact Bool.and_eq_true_iff.mp hfragment.grammatical
  have hkindReads : Reads ('.' :: kind.toList) ⟨.selector, []⟩ [⟨.kind kind, .free⟩]
      (':' :: pseudoClass.name.toList ++ (['('] ++ (front ++ (blanks ++ [')']))) ++ [])
      ⟨.selector, []⟩ :=
    reads_kind hkind (by simp) (fun _ => .kind rfl rfl) (by rintro c ⟨⟩; decide)
  have hname : Reads (':' :: pseudoClass.name.toList) ⟨.selector, []⟩
      [⟨.pseudo pseudoClass, .attached⟩] (['('] ++ (front ++ (blanks ++ [')'])) ++ [])
      ⟨.selector, []⟩ := reads_pseudoName (.inl rfl) pseudoClass (by rintro c ⟨⟩; decide) rfl
  have hopen : Reads ['('] ⟨.selector, []⟩ [⟨.openParen, .free⟩] (front ++ (blanks ++ [')']) ++ [])
      ⟨.selector, [.selector]⟩ := reads_openParen (.inl rfl)
  have hinner : Reads front ⟨.selector, [.selector]⟩ (Chain.listPieces query)
      (blanks ++ [')'] ++ []) ⟨.selector, [.selector]⟩ := by
    rw [List.append_nil]
    exact hfragment.reads [.selector] [')'] (by rintro c ⟨⟩; simp)
  have hclose : Reads (blanks ++ [')']) ⟨.selector, [.selector]⟩ [⟨.closeParen, .free⟩] []
      ⟨.selector, []⟩ := Reads.blanks hfragment.isBlank (by simp) reads_closeParen
  have hreads := hkindReads.append (hname.append (hopen.append (hinner.append hclose)))
  have hpieces : Chain.listPieces
      [.last { kindTest := some ⟨kind, []⟩, pseudoTest := some ⟨pseudoClass, query⟩ }] =
        [⟨.kind kind, .free⟩] ++ ([⟨.pseudo pseudoClass, .attached⟩] ++ ([⟨.openParen, .free⟩] ++
          (Chain.listPieces query ++ [⟨.closeParen, .free⟩]))) := by
    rw [Chain.listPieces, Chain.pieces, Selector.pieces_kind]
    simp [Attribute.rowPieces, pseudoPieces, PseudoTest.pieces, positionPieces]
  rw [← hpieces] at hreads
  refine ofText_of_reads ?_ (by simp) hgrammar hreads
  simp [htext]

/-- **The meaning of a composed text is composed of the meanings of its parts**: texts with a comma
between them, texts with a blank between them, and a text in the parentheses of a pseudo class. -/
theorem ofText_compose (h : ofText text = .ok query) (h' : ofText text' = .ok query') :
    ofText (text ++ ", " ++ text') = .ok (query ++ query') ∧
      (∀ front last first behind, query = front ++ [last] → query' = first :: behind →
        ofText (text ++ " " ++ text') = .ok (front ++ [last.append first] ++ behind)) ∧
      ∀ kind, isKindName kind = true →
        ofText ("." ++ kind ++ ":has(" ++ text ++ ")") =
            .ok [.last { kindTest := some ⟨kind, []⟩, pseudoTest := some ⟨.has, query⟩ }] ∧
          ofText ("." ++ kind ++ ":not_has(" ++ text ++ ")") =
            .ok [.last { kindTest := some ⟨kind, []⟩, pseudoTest := some ⟨.hasNot, query⟩ }] := by
  refine ⟨ofText_comma h h', ?_, fun kind hkind => ⟨?_, ?_⟩⟩
  · rintro front last first behind rfl rfl
    rw [List.append_assoc]
    exact ofText_blank h h'
  · exact ofText_pseudo hkind .has h
  · exact ofText_pseudo hkind .hasNot h

end Query

/-- Two kinds. -/
def kindsQuery : Query :=
  [.last { kindTest := some ⟨"a", []⟩ }, .last { kindTest := some ⟨"b", []⟩ }]

/-- A position alone. -/
def placeQuery : Query := [.last { position := some .last }]

/-- The text of the two kinds, with a blank at its end. -/
theorem ofText_kindsQuery : Query.ofText ".a, .b " = .ok kindsQuery := by
  cbv

/-- The text of the position. -/
theorem ofText_placeQuery : Query.ofText ":last-child" = .ok placeQuery := by
  cbv

/-- The two texts put together: with a comma in between, with a blank, and in the parentheses of a
pseudo class. -/
theorem ofText_compose_kinds :
    Query.ofText ".a, .b " = .ok kindsQuery ∧ Query.ofText ":last-child" = .ok placeQuery ∧
      isKindName "call" = true ∧
      Query.ofText (".a, .b " ++ ", " ++ ":last-child") = .ok (kindsQuery ++ placeQuery) ∧
      Query.ofText (".a, .b " ++ " " ++ ":last-child") =
        .ok [.last { kindTest := some ⟨"a", []⟩ },
          .link { kindTest := some ⟨"b", []⟩ } (.last { position := some .last })] ∧
      Query.ofText ("." ++ "call" ++ ":has(" ++ ".a, .b " ++ ")") =
        .ok [.last { kindTest := some ⟨"call", []⟩, pseudoTest := some ⟨.has, kindsQuery⟩ }] := by
  have hcall : isKindName "call" = true := by decide
  obtain ⟨hcomma, hblank, hpseudo⟩ := Query.ofText_compose ofText_kindsQuery ofText_placeQuery
  exact ⟨ofText_kindsQuery, ofText_placeQuery, hcall, hcomma, hblank [_] _ _ [] rfl rfl,
    (hpseudo "call" hcall).1⟩

end TreeQuery
