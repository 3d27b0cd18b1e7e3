import TreeQuery.Proofs.Query.TokenReaders

/-!
# Places of tokens

The readers of queries look at lexemes and at the blanks before them. Of the place of a token they
make no use but to say where an error is. So **the same tokens at other places are read as the same
query**, and where they are refused, it is the same token that is refused: an error moves along with
its token.

The readers are compared with themselves, run twice over one list of tokens. What one of them leaves
is a part of what it was given and still ends with the end of the query, so that there is always a
token for an error to be about.

## Main definitions and results

* `Token.relocate`, `ParseError.relocate` — tokens and errors at other places.
* `Token.Refuses` — the errors that are about a token.
* `Accord` — two readings have one outcome, up to the places of tokens.
* `accord_parseQuery`: **the readers are in accord with themselves on tokens at other places**.
* `Query.ofTokens_relocate`: so is the reading of a whole text.
* `Query.exists_refuses_of_ofTokens`: an error is about one of the tokens.
-/

namespace TreeQuery

/-! ### Moving tokens and errors -/

/-- A token at another place. -/
def Token.relocate (f : Nat → Nat) (token : Token) : Token :=
  { token with offset := f token.offset }

/-- An error at another place. -/
def ParseError.relocate (f : Nat → Nat) : ParseError → ParseError
  | unexpectedChar char offset => unexpectedChar char (f offset)
  | unexpectedToken found expected offset => unexpectedToken found expected (f offset)
  | unexpectedEnd expected offset => unexpectedEnd expected (f offset)
  | unterminated literal offset => unterminated literal (f offset)
  | invalidPattern offset => invalidPattern (f offset)

/-- The errors that are about a token: it does not fit, or it is a regular expression that is
none. -/
inductive Token.Refuses : Token → ParseError → Prop where
  /-- The token does not fit. -/
  | unfit (token : Token) (expected : Expected) : Refuses token (refuse expected [token])
  /-- The token is no regular expression. -/
  | noPattern (source flags : String) (offset : Nat) (spaced : Bool) :
      Refuses ⟨.pattern source flags, offset, spaced⟩ (.invalidPattern offset)

/-- The tokens end with the end of the query. -/
def EndsQuery (tokens : List Token) : Prop :=
  ∃ last ∈ tokens.getLast?, last.lexeme = .endOfQuery

variable {f : Nat → Nat} {token : Token} {tokens rest : List Token}

/-- An error is about the first token alone. -/
theorem refuse_cons (expected : Expected) (token : Token) (rest : List Token) :
    refuse expected (token :: rest) = refuse expected [token] := by
  obtain ⟨lexeme, offset, spaced⟩ := token
  cases lexeme <;> rfl

/-- The first of tokens at other places is refused in the same way, at its own place. -/
theorem refuse_relocate (expected : Expected) (token : Token) (rest : List Token) :
    refuse expected ((token :: rest).map (Token.relocate f)) =
      (refuse expected (token :: rest)).relocate f := by
  obtain ⟨lexeme, offset, spaced⟩ := token
  cases lexeme <;> rfl

/-- Where there are no tokens the end of the query is missing. -/
theorem not_endsQuery_nil : ¬ EndsQuery [] := by
  rintro ⟨last, hlast, -⟩
  cases hlast

/-- Tokens that end with the end of the query have a first one. -/
theorem EndsQuery.exists_cons (h : EndsQuery tokens) : ∃ token rest, tokens = token :: rest := by
  cases tokens with
  | nil => exact absurd h not_endsQuery_nil
  | cons token rest => exact ⟨token, rest, rfl⟩

/-- Behind any other token the end of the query is still to come. -/
theorem EndsQuery.tail (h : EndsQuery (token :: rest)) (hne : token.lexeme ≠ .endOfQuery) :
    EndsQuery rest := by
  obtain ⟨last, hlast, hend⟩ := h
  cases rest with
  | nil =>
    obtain rfl : token = last := by simpa using hlast
    exact absurd hend hne
  | cons next rest => exact ⟨last, by simpa using hlast, hend⟩

/-! ### Accord -/

/-- Two readings have one outcome, up to the places of tokens: they return the same value and leave
the same tokens, a part of those given that ends with the end of the query, or they refuse the same
token. -/
inductive Accord (f : Nat → Nat) (tokens : List Token) {α : Type} {bound bound' : Nat} :
    Reading α bound → Reading α bound' → Prop where
  /-- Both return a value. -/
  | returns {value : α} {rest : List Token} {hlt : rest.length < bound}
      {hlt' : (rest.map (Token.relocate f)).length < bound'} :
      rest <:+ tokens → EndsQuery rest →
      Accord f tokens (.ok ⟨value, rest, hlt⟩) (.ok ⟨value, rest.map (Token.relocate f), hlt'⟩)
  /-- Both refuse a token. -/
  | refuses {token : Token} {error : ParseError} :
      token ∈ tokens → token.Refuses error →
      Accord f tokens (.error error) (.error (error.relocate f))

namespace Accord

variable {α β : Type} {bound bound' bound₂ bound₂' : Nat}

/-- Readings that agree on a part of the tokens agree on the tokens. -/
theorem mono {reading : Reading α bound} {reading' : Reading α bound'} (hsuffix : rest <:+ tokens)
    (h : Accord f rest reading reading') : Accord f tokens reading reading' := by
  cases h with
  | returns hrest hends => exact .returns (hrest.trans hsuffix) hends
  | refuses hmem hrefuses => exact .refuses (hsuffix.subset hmem) hrefuses

/-- Readings that agree on the tokens behind one agree from that one on. -/
theorem behind {reading : Reading α bound} {reading' : Reading α bound'}
    (h : Accord f rest reading reading') : Accord f (token :: rest) reading reading' :=
  h.mono (List.suffix_cons token rest)

/-- **Readings in a row are in accord when each of them is.** -/
theorem bind {reading : Reading α bound} {reading' : Reading α bound'}
    {next : Parsed Token α bound → Reading β bound₂}
    {next' : Parsed Token α bound' → Reading β bound₂'} (h : Accord f tokens reading reading')
    (hnext : ∀ value rest hlt hlt', EndsQuery rest →
      Accord f rest (next ⟨value, rest, hlt⟩) (next' ⟨value, rest.map (Token.relocate f), hlt'⟩)) :
    Accord f tokens (reading >>= next) (reading' >>= next') := by
  cases h with
  | returns hrest hends => exact (hnext _ _ _ _ hends).mono hrest
  | refuses hmem hrefuses => exact .refuses hmem hrefuses

/-- A first token that does not fit is refused. -/
theorem unfit (expected : Expected) (h : EndsQuery tokens) :
    Accord f tokens (.error (refuse expected tokens) : Reading α bound)
      (.error (refuse expected (tokens.map (Token.relocate f))) : Reading α bound') := by
  obtain ⟨token, rest, rfl⟩ := h.exists_cons
  rw [refuse_relocate, refuse_cons]
  exact .refuses List.mem_cons_self (.unfit token expected)

/-- Values and tokens that are the same. -/
theorem ok {value value' : α} {behind behind' : List Token} {hlt : behind.length < bound}
    {hlt' : behind'.length < bound'} (hvalue : value' = value)
    (hbehind : behind' = behind.map (Token.relocate f)) (hsuffix : behind <:+ tokens)
    (hends : EndsQuery behind) :
    Accord f tokens (.ok ⟨value, behind, hlt⟩) (.ok ⟨value', behind', hlt'⟩) := by
  subst hvalue hbehind
  exact .returns hsuffix hends

end Accord

/-! ### Single tokens -/

/-- Whether the first token is a given one does not depend on places. -/
theorem accord_expect {lexeme : Lexeme} (expected : Expected) (hlexeme : lexeme ≠ .endOfQuery)
    (h : EndsQuery tokens) :
    Accord f tokens (expect lexeme expected tokens)
      (expect lexeme expected (tokens.map (Token.relocate f))) := by
  obtain ⟨token, rest, rfl⟩ := h.exists_cons
  by_cases htoken : token.lexeme = lexeme
  · have hmoved : (token.relocate f).lexeme = lexeme := htoken
    rw [expect, if_pos htoken, List.map_cons, expect, if_pos hmoved]
    exact .returns (List.suffix_cons _ _) (h.tail (htoken ▸ hlexeme))
  · have hmoved : (token.relocate f).lexeme ≠ lexeme := htoken
    rw [expect, if_neg htoken, List.map_cons, expect, if_neg hmoved]
    exact .unfit expected h

/-- The reading of a scalar is in accord. -/
theorem accord_parseScalar (h : EndsQuery tokens) :
    Accord f tokens (parseScalar tokens) (parseScalar (tokens.map (Token.relocate f))) := by
  obtain ⟨⟨lexeme, offset, spaced⟩, rest, rfl⟩ := h.exists_cons
  cases lexeme with
  | text text | word word => exact .returns (List.suffix_cons _ _) (h.tail (by simp))
  | pattern source flags =>
    rw [List.map_cons, Token.relocate, parseScalar, parseScalar]
    cases Pattern.ofSource? source flags with
    | some pattern => exact .returns (List.suffix_cons _ _) (h.tail (by simp))
    | none => exact .refuses List.mem_cons_self (.noPattern source flags offset spaced)
  | _ => exact .unfit .value h

/-- The reading of the elements of an array is in accord, by induction on the number of tokens. -/
theorem accord_parseElements {tokens : List Token} (h : EndsQuery tokens) :
    Accord f tokens (parseElements tokens) (parseElements (tokens.map (Token.relocate f))) := by
  obtain ⟨⟨lexeme, offset, spaced⟩, behind, rfl⟩ := h.exists_cons
  rw [parseElements.eq_def, parseElements.eq_def (List.map _ _)]
  cases lexeme with
  | closeParen => exact .returns (List.suffix_cons _ _) (h.tail (by simp))
  | _ =>
    refine (accord_parseScalar h).bind fun value rest hlt hlt' hends => ?_
    have := hlt
    refine (accord_parseElements hends).bind fun values rest hlt hlt' hends => ?_
    exact .returns (List.suffix_refl _) hends
termination_by tokens.length

/-- Where a position is taken, it is taken from the token at another place too. -/
theorem takePosition_relocate (tokens : List Token) :
    (takePosition (tokens.map (Token.relocate f))).value = (takePosition tokens).value ∧
      (takePosition (tokens.map (Token.relocate f))).rest =
        (takePosition tokens).rest.map (Token.relocate f) := by
  rcases tokens with _ | ⟨⟨lexeme, offset, spaced⟩, rest⟩
  · exact ⟨rfl, rfl⟩
  · cases lexeme <;> cases spaced <;> exact ⟨rfl, rfl⟩

/-- Taking a position leaves tokens that still end with the end of the query. -/
theorem suffix_takePosition (h : EndsQuery tokens) :
    (takePosition tokens).rest <:+ tokens ∧ EndsQuery (takePosition tokens).rest := by
  rcases endsPosition_or tokens with ⟨position, offset, rest, rfl⟩ | hends
  · exact ⟨List.suffix_cons _ _, h.tail (by simp)⟩
  · rw [takePosition_of_ends hends]
    exact ⟨List.suffix_refl _, h⟩

/-! ### Reading queries -/

/-- Whether a selector may start does not depend on places. -/
theorem startsSelector_relocate (tokens : List Token) :
    startsSelector (tokens.map (Token.relocate f)) = startsSelector tokens := by
  rcases tokens with _ | ⟨⟨lexeme, offset, spaced⟩, rest⟩
  · rfl
  · cases lexeme <;> rfl

mutual

/-- **The reading of a query is in accord**, and with it that of every part. The induction is the
recursion of the readers: each token taken leaves fewer of them. -/
theorem accord_parseQuery {tokens : List Token} {n : Nat} (hn : tokens.length = n)
    (h : EndsQuery tokens) :
    Accord f tokens (parseQuery tokens) (parseQuery (tokens.map (Token.relocate f))) := by
  rw [parseQuery, parseQuery]
  refine (accord_parseChain hn h).bind fun chain rest hlt hlt' hends => ?_
  obtain ⟨⟨lexeme, offset, spaced⟩, behind, rfl⟩ := hends.exists_cons
  cases lexeme with
  | comma =>
    have : behind.length < n := hn ▸ Nat.lt_of_succ_lt hlt
    refine (accord_parseQuery rfl (hends.tail (by simp))).behind.bind
      fun others rest hlt hlt' hends => ?_
    exact .returns (List.suffix_refl _) hends
  | _ => exact .returns (List.suffix_refl _) hends
termination_by (n, 3)

/-- The reading of a chain is in accord. -/
theorem accord_parseChain {tokens : List Token} {n : Nat} (hn : tokens.length = n)
    (h : EndsQuery tokens) :
    Accord f tokens (parseChain tokens) (parseChain (tokens.map (Token.relocate f))) := by
  rw [parseChain, parseChain]
  refine (accord_parseSelector hn h).bind fun selector rest hlt hlt' hends => ?_
  dsimp only
  rw [startsSelector_relocate]
  split
  · have : rest.length < n := hn ▸ hlt
    refine (accord_parseChain rfl hends).bind fun others rest hlt hlt' hends => ?_
    exact .returns (List.suffix_refl _) hends
  · exact .returns (List.suffix_refl _) hends
termination_by (n, 2)

/-- The reading of a selector is in accord. -/
theorem accord_parseSelector {tokens : List Token} {n : Nat} (hn : tokens.length = n)
    (h : EndsQuery tokens) :
    Accord f tokens (parseSelector tokens) (parseSelector (tokens.map (Token.relocate f))) := by
  obtain ⟨⟨lexeme, offset, spaced⟩, behind, rfl⟩ := h.exists_cons
  rw [parseSelector.eq_def, parseSelector.eq_def (List.map _ _)]
  cases lexeme with
  | scope path =>
    have : behind.length < n := hn ▸ Nat.lt_succ_self _
    refine (accord_parseSelector rfl (h.tail (by simp))).behind.bind
      fun next rest hlt hlt' hends => ?_
    exact .returns (List.suffix_refl _) hends
  | combinator combinator =>
    have : behind.length < n := hn ▸ Nat.lt_succ_self _
    refine (accord_parseSelector rfl (h.tail (by simp))).behind.bind
      fun next rest hlt hlt' hends => ?_
    exact .returns (List.suffix_refl _) hends
  | _ => exact accord_parseCompound hn h
termination_by (n, 1)

/-- The reading of a compound is in accord. -/
theorem accord_parseCompound {tokens : List Token} {n : Nat} (hn : tokens.length = n)
    (h : EndsQuery tokens) :
    Accord f tokens (parseCompound tokens) (parseCompound (tokens.map (Token.relocate f))) := by
  obtain ⟨⟨lexeme, offset, spaced⟩, behind, rfl⟩ := h.exists_cons
  rw [parseCompound.eq_def, parseCompound.eq_def (List.map _ _)]
  cases lexeme with
  | kind kind =>
    have : behind.length < n := hn ▸ Nat.lt_succ_self _
    refine (accord_parseAttributes rfl (h.tail (by simp))).behind.bind
      fun attributes rest hlt hlt' hends => ?_
    have : rest.length < n := hn ▸ hlt
    refine (accord_parseAttachedPseudo rfl hends).bind fun pseudoTest rest hlt hlt' hends => ?_
    obtain ⟨hvalue, hrest⟩ := takePosition_relocate (f := f) rest
    obtain ⟨hsuffix, hends⟩ := suffix_takePosition hends
    exact .ok (by rw [hvalue]) hrest hsuffix hends
  | pseudo pseudoClass =>
    have : behind.length < n := hn ▸ Nat.lt_succ_self _
    refine (accord_parsePseudoQuery rfl (h.tail (by simp))).behind.bind
      fun query rest hlt hlt' hends => ?_
    obtain ⟨hvalue, hrest⟩ := takePosition_relocate (f := f) rest
    obtain ⟨hsuffix, hends⟩ := suffix_takePosition hends
    exact .ok (by rw [hvalue]) hrest hsuffix hends
  | position position => exact .returns (List.suffix_cons _ _) (h.tail (by simp))
  | _ => exact .unfit .selector h
termination_by (n, 0)

/-- The reading of the query of a pseudo class is in accord. -/
theorem accord_parsePseudoQuery {tokens : List Token} {n : Nat} (hn : tokens.length = n)
    (h : EndsQuery tokens) :
    Accord f tokens (parsePseudoQuery tokens)
      (parsePseudoQuery (tokens.map (Token.relocate f))) := by
  rw [parsePseudoQuery, parsePseudoQuery]
  refine (accord_expect .openParen (by simp) h).bind fun _ rest hlt hlt' hends => ?_
  have : rest.length < n := hn ▸ hlt
  refine (accord_parseQuery rfl hends).bind fun query rest hlt hlt' hends => ?_
  refine (accord_expect .closeParen (by simp) hends).bind fun _ rest hlt hlt' hends => ?_
  exact .returns (List.suffix_refl _) hends
termination_by (n, 0)

/-- The reading of an attached pseudo class is in accord, since the blank before a token stays with
it. -/
theorem accord_parseAttachedPseudo {tokens : List Token} {n : Nat} (hn : tokens.length = n)
    (h : EndsQuery tokens) :
    Accord f tokens (parseAttachedPseudo tokens)
      (parseAttachedPseudo (tokens.map (Token.relocate f))) := by
  obtain ⟨⟨lexeme, offset, spaced⟩, behind, rfl⟩ := h.exists_cons
  rw [parseAttachedPseudo.eq_def, parseAttachedPseudo.eq_def (List.map _ _)]
  cases lexeme with
  | pseudo pseudoClass =>
    cases spaced with
    | false =>
      have : behind.length < n := hn ▸ Nat.lt_succ_self _
      refine (accord_parsePseudoQuery rfl (h.tail (by simp))).behind.bind
        fun query rest hlt hlt' hends => ?_
      exact .returns (List.suffix_refl _) hends
    | true => exact .returns (List.suffix_refl _) h
  | _ => exact .returns (List.suffix_refl _) h
termination_by (n, 0)

/-- The reading of attributes in a row is in accord. -/
theorem accord_parseAttributes {tokens : List Token} {n : Nat} (hn : tokens.length = n)
    (h : EndsQuery tokens) :
    Accord f tokens (parseAttributes tokens)
      (parseAttributes (tokens.map (Token.relocate f))) := by
  obtain ⟨⟨lexeme, offset, spaced⟩, behind, rfl⟩ := h.exists_cons
  rw [parseAttributes.eq_def, parseAttributes.eq_def (List.map _ _)]
  cases lexeme with
  | openBracket =>
    have : behind.length < n := hn ▸ Nat.lt_succ_self _
    refine (accord_parseAttribute rfl (h.tail (by simp))).behind.bind
      fun first middle hmiddle _ hends => ?_
    refine (accord_expect .closeBracket (by simp) hends).bind fun _ rest hrest _ hends => ?_
    have : rest.length < n := Nat.lt_trans (Nat.lt_trans hrest hmiddle) this
    refine (accord_parseAttributes rfl hends).bind fun others rest hlt hlt' hends => ?_
    exact .returns (List.suffix_refl _) hends
  | _ => exact .returns (List.suffix_refl _) h
termination_by (n, 0)

/-- The reading of an attribute is in accord. -/
theorem accord_parseAttribute {tokens : List Token} {n : Nat} (hn : tokens.length = n)
    (h : EndsQuery tokens) :
    Accord f tokens (parseAttribute tokens)
      (parseAttribute (tokens.map (Token.relocate f))) := by
  obtain ⟨⟨lexeme, offset, spaced⟩, behind, rfl⟩ := h.exists_cons
  rw [parseAttribute.eq_def, parseAttribute.eq_def (List.map _ _)]
  cases lexeme with
  | key path =>
    have hbehind := h.tail (by simp)
    obtain ⟨⟨lexeme, offset, spaced⟩, behind, rfl⟩ := hbehind.exists_cons
    cases lexeme with
    | operator operator =>
      have : behind.length < n := hn ▸ Nat.lt_succ_of_lt (Nat.lt_succ_self _)
      refine (accord_parseValue rfl (hbehind.tail (by simp))).behind.behind.bind
        fun value rest hlt hlt' hends => ?_
      exact .returns (List.suffix_refl _) hends
    | _ => exact (Accord.unfit .operator hbehind).behind
  | _ => exact .unfit .attributeKey h
termination_by (n, 0)

/-- The reading of a value is in accord. -/
theorem accord_parseValue {tokens : List Token} {n : Nat} (hn : tokens.length = n)
    (h : EndsQuery tokens) :
    Accord f tokens (parseValue tokens) (parseValue (tokens.map (Token.relocate f))) := by
  obtain ⟨⟨lexeme, offset, spaced⟩, behind, rfl⟩ := h.exists_cons
  rw [parseValue.eq_def, parseValue.eq_def (List.map _ _)]
  cases lexeme with
  | openParen =>
    refine (accord_parseElements (h.tail (by simp))).behind.bind
      fun elements rest hlt hlt' hends => ?_
    exact .returns (List.suffix_refl _) hends
  | kind kind =>
    refine (accord_parseCompound hn h).bind fun selector rest hlt hlt' hends => ?_
    exact .returns (List.suffix_refl _) hends
  | _ => exact accord_parseScalar h
termination_by (n, 1)

end

namespace Query

/-- **The tokens of a whole text are read as the same query at other places**, or the same one of
them is refused. -/
theorem ofTokens_relocate (f : Nat → Nat) (h : EndsQuery tokens) :
    (∃ query, ofTokens tokens = .ok query ∧
        ofTokens (tokens.map (Token.relocate f)) = .ok query) ∨
      ∃ token ∈ tokens, ∃ error, token.Refuses error ∧ ofTokens tokens = .error error ∧
        ofTokens (tokens.map (Token.relocate f)) = .error (error.relocate f) := by
  have haccord := accord_parseQuery (f := f) rfl h
  unfold ofTokens
  generalize parseQuery tokens = reading at haccord ⊢
  generalize parseQuery (tokens.map (Token.relocate f)) = reading' at haccord ⊢
  cases haccord with
  | refuses hmem hrefuses => exact .inr ⟨_, hmem, _, hrefuses, rfl, rfl⟩
  | @returns query rest _ _ hsuffix hends =>
    obtain ⟨⟨lexeme, offset, spaced⟩, behind, rfl⟩ := hends.exists_cons
    have hmem := hsuffix.subset List.mem_cons_self
    cases lexeme with
    | endOfQuery => exact .inl ⟨query, rfl, rfl⟩
    | _ => exact .inr ⟨_, hmem, _, .unfit _ .commaOrEnd, rfl, rfl⟩

/-- **Where tokens are not those of a query, it is one of them that is refused.** -/
theorem exists_refuses_of_ofTokens {error : ParseError} (h : EndsQuery tokens)
    (herror : ofTokens tokens = .error error) : ∃ token ∈ tokens, token.Refuses error := by
  rcases ofTokens_relocate id h with ⟨query, hquery, -⟩ | ⟨token, hmem, _, hrefuses, hrefused, -⟩
  · rw [hquery] at herror
    cases herror
  · obtain rfl := Except.error.inj (hrefused.symm.trans herror)
    exact ⟨token, hmem, hrefuses⟩

end Query

end TreeQuery
