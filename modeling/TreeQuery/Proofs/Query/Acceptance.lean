import TreeQuery.Proofs.Query.Derivations
import TreeQuery.Proofs.Query.RoundTrip

/-!
# Which texts are queries

A text that can be cut into tokens, all of whose regular expressions are ones, is a query exactly
when its lexemes derive from the grammar. Reading is greedy and never takes a step back, and still
it refuses nothing that the grammar derives.

What is read leaves nothing out: its pieces are spelled by the tokens one by one.

## Main results

* `Query.exists_ofText_iff_derives`: **a text is a query exactly when the grammar derives it, and
  the query is spelled by its tokens**.
-/

namespace TreeQuery

/-- Whether a lexeme is anything but a regular expression that is none. -/
def Lexeme.builds : Lexeme → Bool
  | pattern source flags => (Pattern.ofSource? source flags).isSome
  | _ => true

/-- Only the end of the query and what is no regular expression stand for nothing. -/
theorem Lexeme.exists_part_of_builds {lexeme : Lexeme} (h : lexeme.builds = true)
    (hlast : lexeme ≠ .endOfQuery) : ∃ part, lexeme.part? = some part := by
  cases lexeme with
  | pattern source flags =>
    obtain ⟨pattern, hpattern⟩ := Option.isSome_iff_exists.mp h
    exact ⟨_, Option.map_eq_some_iff.mpr ⟨pattern, hpattern, rfl⟩⟩
  | endOfQuery => exact absurd rfl hlast
  | _ => exact ⟨_, rfl⟩

/-- A run ends before the end of the query, which is among none of its tokens. -/
theorem Cursor.Run.ne_endOfQuery {cursor behind : Cursor} {tokens : List Token}
    (h : cursor.Run tokens behind) : ∀ token ∈ tokens, token.lexeme ≠ .endOfQuery := by
  induction h with
  | nil => simp
  | cons _ hlast _ ih => exact List.forall_mem_cons.mpr ⟨hlast, ih⟩

namespace Query

/-- What is read from a text is spelled by all of its tokens. -/
theorem spells_of_ofText {text : String} {query : Query} {front : List Token} {last : Token}
    (htokens : tokenize text = .ok (front ++ [last]))
    (hfront : ∀ token ∈ front, token.lexeme ≠ .endOfQuery) (h : ofText text = .ok query) :
    query.isGrammatical = true ∧ Spells front (Chain.listPieces query) [] := by
  obtain ⟨tokens, final, rest, htokens', hspans, hfinal⟩ := ofText_eq_ok_iff.mp h
  obtain rfl := Except.ok.inj (htokens'.symm.trans htokens)
  obtain ⟨taken, heq, hspells⟩ := hspans.spelled.exists_eq_append
  -- The end of the query is the last of all tokens, and so nothing stands behind it.
  rcases List.eq_nil_or_concat rest with rfl | ⟨others, end', rfl⟩
  · obtain ⟨rfl, -⟩ := List.append_inj' heq rfl
    exact ⟨hspans.composed, hspells⟩
  · rw [List.concat_eq_append, ← List.cons_append, ← List.append_assoc] at heq
    obtain ⟨rfl, -⟩ := List.append_inj' heq rfl
    exact absurd hfinal (hfront final (by simp))

/-- **A text is a query exactly when the grammar derives its lexemes**, up to the end of the query.
The tokens of a query spell its pieces one by one: its parts from left to right, a pseudo class or
position without a blank before it if it belongs to the part before it, and with a blank before it
if it begins a selector though that part could have taken it. -/
theorem exists_ofText_iff_derives {text : String} {tokens : List Token}
    (htokens : tokenize text = .ok tokens)
    (hbuilds : ∀ token ∈ tokens, token.lexeme.builds = true) :
    ∃ front last, tokens = front ++ [last] ∧ last.lexeme = .endOfQuery ∧
      ((∃ query, ofText text = .ok query) ↔ Derives .query (Token.lexemes front)) ∧
      ∀ query, ofText text = .ok query → Spells front (Chain.listPieces query) [] := by
  obtain ⟨front, last, behind, rfl, hlast, hrun, -⟩ := exists_run_of_tokensFrom htokens
  have hfront := hrun.ne_endOfQuery
  refine ⟨front, last, rfl, hlast, ⟨?_, fun hderives => ?_⟩, fun query hquery => ?_⟩
  · rintro ⟨query, hquery⟩
    obtain ⟨hgrammatical, hspells⟩ := spells_of_ofText htokens hfront hquery
    exact derives hgrammatical hspells
  · have hstand : Stand front := by
      intro token hmem
      obtain ⟨part, hpart⟩ := Lexeme.exists_part_of_builds
        (hbuilds token (List.mem_append_left _ hmem)) (hfront token hmem)
      exact ⟨part, hpart, areWritten_tokensFrom htokens token (List.mem_append_left _ hmem) part
        hpart⟩
    obtain ⟨-, -, query, hgrammatical, hspells⟩ :=
      hderives.leadsBack [] _ behind front rfl hstand hrun rfl
    have hspans : query.Spans (front ++ [last]) [last] :=
      ⟨hgrammatical, hspells.with_rest [last], ends_cons (.inr hlast)⟩
    exact ⟨query, ofText_eq_ok_iff.mpr ⟨_, last, [], htokens, hspans, hlast⟩⟩
  · exact (spells_of_ofText htokens hfront hquery).2

end Query

/-- The tokens of a kind with an attached pseudo class, and of a position that is set apart. -/
def attachmentTokens : List Token :=
  [⟨.kind "a", 0, false⟩, ⟨.openBracket, 2, false⟩, ⟨.key "b", 3, false⟩,
    ⟨.operator .like, 5, true⟩, ⟨.pattern "x" "", 8, true⟩, ⟨.closeBracket, 11, false⟩,
    ⟨.pseudo .has, 12, false⟩, ⟨.openParen, 16, false⟩, ⟨.kind "c", 17, false⟩,
    ⟨.closeParen, 19, false⟩, ⟨.position .last, 21, true⟩, ⟨.endOfQuery, 32, false⟩]

/-- The regular expression among the tokens is one. -/
theorem builds_attachmentTokens : ∀ token ∈ attachmentTokens, token.lexeme.builds = true := by
  have hpattern : (Pattern.ofSource? "x" "").isSome = true := by cbv
  simpa [attachmentTokens, Lexeme.builds] using hpattern

/-- The text of the attached pseudo class and the separate position is a query exactly when its
lexemes derive from the grammar. -/
theorem exists_ofText_iff_derives_attachment :
    tokenize ".a[b =~ /x/]:has(.c) :last-child" = .ok attachmentTokens ∧
      (∀ token ∈ attachmentTokens, token.lexeme.builds = true) ∧
      ∃ front last, attachmentTokens = front ++ [last] ∧ last.lexeme = .endOfQuery ∧
        ((∃ query, Query.ofText ".a[b =~ /x/]:has(.c) :last-child" = .ok query) ↔
          Derives .query (Token.lexemes front)) ∧
        ∀ query, Query.ofText ".a[b =~ /x/]:has(.c) :last-child" = .ok query →
          Spells front (Chain.listPieces query) [] := by
  have htokens : tokenize ".a[b =~ /x/]:has(.c) :last-child" = .ok attachmentTokens := by cbv
  exact ⟨htokens, builds_attachmentTokens,
    Query.exists_ofText_iff_derives htokens builds_attachmentTokens⟩

end TreeQuery
