import Mathlib
import TreeQuery.Proofs.Query.EqualQueries
import TreeQuery.Proofs.Query.QueryText
import TreeQuery.Proofs.Query.ReadersComplete

/-!
# Writing and reading queries

Writing a query and reading the text back gives the query again, whenever the notation has a text
for it at all and no two parts of that text run together. **Both conditions are necessary.** What
was read from a text has a text, so that for it only the second one is left.

## Main results

* `Query.ofText_toText`: a printable query is read back from its text.
* `Query.readsBack_iff_isPrintable`: a query is read back exactly when it is printable.
* `Query.readsBack_iff_isLegible`: a query that was read from a text is read back exactly when no
  attribute of it runs together.
-/

namespace TreeQuery

/-! ### Reading whole texts -/

/-- The tokens of a whole text spell a query when nothing but the end follows it. -/
theorem Query.ofTokens_eq_ok_iff {tokens : List Token} {query : Query} :
    ofTokens tokens = .ok query ↔
      ∃ last rest, Returns (parseQuery tokens) query (last :: rest) ∧
        last.lexeme = .endOfQuery := by
  unfold ofTokens Returns
  cases parseQuery tokens with
  | error e => simp [bind, Except.bind]
  | ok parsed =>
    obtain ⟨found, behind, hlt⟩ := parsed
    simp only [bind, Except.bind, Except.ok.injEq, Parsed.mk.injEq]
    split
    · rename_i offset spaced rest
      constructor
      · intro h
        obtain rfl := Except.ok.inj h
        exact ⟨_, _, ⟨hlt, rfl, rfl⟩, rfl⟩
      · rintro ⟨last, rest', ⟨_, rfl, -⟩, -⟩
        rfl
    · rename_i hend
      constructor
      · rintro ⟨⟩
      · rintro ⟨⟨lexeme, offset, spaced⟩, rest', ⟨_, rfl, heq⟩, rfl⟩
        exact absurd heq (hend offset spaced rest')

/-- **A query is read from a text exactly when it spans the tokens** up to the end. -/
theorem Query.ofText_eq_ok_iff {text : String} {query : Query} :
    ofText text = .ok query ↔
      ∃ tokens last rest, tokensFrom (Cursor.start text.toList) = .ok tokens ∧
        query.Spans tokens (last :: rest) ∧ last.lexeme = .endOfQuery := by
  unfold ofText tokenize
  cases htokens : tokensFrom (Cursor.start text.toList) with
  | error e => simp [bind, Except.bind]
  | ok tokens =>
    have hw := areWritten_tokensFrom htokens
    simp only [bind, Except.bind, ofTokens_eq_ok_iff, returns_parseQuery_iff hw, Except.ok.injEq]
    constructor
    · rintro ⟨last, rest, hspans, hlast⟩
      exact ⟨tokens, last, rest, rfl, hspans, hlast⟩
    · rintro ⟨_, last, rest, rfl, hspans, hlast⟩
      exact ⟨last, rest, hspans, hlast⟩

/-- What is read from a text is grammatical. -/
theorem Query.isGrammatical_of_ofText {text : String} {query : Query}
    (h : ofText text = .ok query) : query.isGrammatical = true := by
  obtain ⟨_, _, _, _, hspans, _⟩ := ofText_eq_ok_iff.mp h
  exact hspans.composed

/-! ### Reading back -/

/-- A query is read back when its text is read as a query that equals it. -/
def Query.ReadsBack (query : Query) : Prop :=
  ∃ again, ofText query.toText = .ok again ∧ again.beq query = true

/-- A text that is read as the pieces of a grammatical query, up to blanks at its end, is that
query. -/
theorem Query.ofText_of_reads {query : Query} {text : String} {front blanks : List Char}
    (htext : text.toList = front ++ blanks) (hblanks : ∀ c ∈ blanks, Text.isBlank c = true)
    (hgrammar : query.isGrammatical = true)
    (hreads : Reads front ⟨.selector, []⟩ (Chain.listPieces query) blanks ⟨.selector, []⟩) :
    ofText text = .ok query := by
  obtain ⟨tokens, offset, hrun, hspells⟩ := hreads 0
  let last : Token := ⟨.endOfQuery, offset + blanks.length, decide (0 < blanks.length)⟩
  have hend : tokensFrom ⟨blanks, offset, .start⟩ = .ok [last] := by
    have hdrop : blanks.dropWhile Text.isBlank = [] := List.dropWhile_eq_nil_iff.mpr hblanks
    refine tokensFrom_eq_ok_iff.mpr ⟨last, ⟨[], offset + blanks.length, .start⟩, ?_, rfl⟩
    unfold Cursor.next
    dsimp only
    rw [hdrop, Modes.start, Modes.settle_of_ne (by simp)]
    rfl
  have htokens := (tokensFrom_of_run hrun).mpr ⟨_, hend, rfl⟩
  have hspans : query.Spans (tokens ++ [last]) [last] :=
    ⟨hgrammar, hspells.with_rest _, ends_cons (.inr rfl)⟩
  refine ofText_eq_ok_iff.mpr ⟨tokens ++ [last], last, [], ?_, hspans, rfl⟩
  rw [htext]
  exact htokens

/-- **A printable query is read back from its text**, as the very query that it is. -/
theorem Query.ofText_toText {query : Query} (h : query.isPrintable = true) :
    ofText query.toText = .ok query := by
  obtain ⟨hgrammar, hlegible⟩ := Bool.and_eq_true_iff.mp h
  have hreads : Reads (Chain.listSpelling query) ⟨.selector, []⟩ (Chain.listPieces query) []
      ⟨.selector, []⟩ :=
    (query.settled hgrammar [] [] (by rintro c ⟨⟩)).reads hlegible
  refine ofText_of_reads ?_ (by simp) hgrammar hreads
  rw [toText, String.toList_ofList, List.append_nil]

/-- A printable query is read back. -/
theorem Query.readsBack_of_isPrintable {query : Query} (h : query.isPrintable = true) :
    query.ReadsBack := by
  obtain ⟨hgrammar, hlegible⟩ := Bool.and_eq_true_iff.mp h
  exact ⟨query, ofText_toText h, beq_self hgrammar hlegible⟩

/-- What is read back is grammatical, as what is read is. -/
theorem Query.isGrammatical_of_readsBack {query : Query} (h : query.ReadsBack) :
    query.isGrammatical = true := by
  obtain ⟨again, hagain, hbeq⟩ := h
  exact isGrammatical_of_beq hbeq (isGrammatical_of_ofText hagain)

/-- **What is read back is legible**: otherwise its text is misread, and the tokens of what equals
the query would resemble it. -/
theorem Query.isLegible_of_readsBack {query : Query} (h : query.ReadsBack) :
    query.isLegible = true := by
  by_contra hlegible
  have hmisreads := (query.settled (isGrammatical_of_readsBack h) [] [] (by rintro c ⟨⟩)).misreads
    (Bool.not_eq_true _ ▸ hlegible)
  obtain ⟨again, hagain, hbeq⟩ := h
  obtain ⟨tokens, last, rest, htokens, hspans, -⟩ := ofText_eq_ok_iff.mp hagain
  rw [toText, String.toList_ofList] at htokens
  refine hmisreads 0 tokens ?_ (resembles_of_spells hspans.spelled (alike_of_beq hbeq))
  rwa [List.append_nil]

/-- **A query is read back exactly when it is printable**, wherever it comes from. -/
theorem Query.readsBack_iff_isPrintable (query : Query) :
    query.ReadsBack ↔ query.isPrintable = true := by
  refine ⟨fun h => ?_, readsBack_of_isPrintable⟩
  exact Bool.and_eq_true_iff.mpr ⟨isGrammatical_of_readsBack h, isLegible_of_readsBack h⟩

/-- **What was read from a text is read back exactly when it is legible**: the notation has a text
for all of its parts, but the text that is written can run together where the one that was read did
not. -/
theorem Query.readsBack_iff_isLegible {text : String} {query : Query}
    (h : ofText text = .ok query) : query.ReadsBack ↔ query.isLegible = true := by
  refine ⟨isLegible_of_readsBack, fun hlegible => readsBack_of_isPrintable ?_⟩
  exact Bool.and_eq_true_iff.mpr ⟨isGrammatical_of_ofText h, hlegible⟩

/-- A query with a wildcard at the end of a key. -/
def wildcardQuery : Query :=
  [.last { kindTest := some ⟨"call",
    [⟨⟨[.name "args", .wildcard]⟩, .equal, .identifier "x"⟩]⟩ }]

/-- With a blank before the operator the query has a text. -/
theorem ofText_wildcardQuery : Query.ofText ".call[args.* = x]" = .ok wildcardQuery := by
  cbv

/-- The query with the wildcard is read back exactly when it is legible, which it is not. -/
theorem readsBack_iff_isLegible_wildcard :
    Query.ofText ".call[args.* = x]" = .ok wildcardQuery ∧
      (wildcardQuery.ReadsBack ↔ wildcardQuery.isLegible = true) :=
  ⟨ofText_wildcardQuery, Query.readsBack_iff_isLegible ofText_wildcardQuery⟩

/-- Not everything that is read from a text is read back: the text of this query has `*=` in it,
which is another operator. -/
theorem not_forall_readsBack :
    ¬ ∀ text query, Query.ofText text = .ok query → query.ReadsBack := by
  intro h
  have hlegible := Query.isLegible_of_readsBack (h _ _ ofText_wildcardQuery)
  exact absurd hlegible (by decide)

end TreeQuery
