import TreeQuery.Proofs.Query.Attachment

/-!
# Tokens whose lexemes derive from the grammar

The tokens that the lexer cuts from a text spell a query already when their lexemes derive from the
grammar. The grammar knows nothing of blanks, and blanks decide where a pseudo class or position
belongs. In a chain every decision is a good one. In a selector used as a value only one of them
is, and there the lexer leaves no choice: a blank ends the value.

So the modes have to be carried through the derivation. A row of lexemes **leads** from modes to
modes when every run over it that starts in the former ends in the latter; what its tokens spell is
said along with that. Rows in a row are composed as the steps of a program are.

## Main definitions and results

* `Leads` — where the runs over a row of lexemes lead, and what their tokens spell.
* `Phrase.LeadsBack` — where what a phrase derives leads.
* `Derives.leadsBack`: **every derivation leads back to the modes in which it starts, and its tokens
  spell what the phrase is**.
-/

namespace TreeQuery

/-! ### Rows of lexemes -/

/-- Every token stands for a part as it is written. -/
def Stand (tokens : List Token) : Prop :=
  ∀ token ∈ tokens, ∃ part, token.lexeme.part? = some part ∧ part.isWritten = true

/-- Every run over the lexemes that starts in the modes `modes` nests and ends in the modes
`modes'`, and its tokens are as said. -/
def Leads (w : List Lexeme) (modes modes' : Modes) (found : List Token → Prop) : Prop :=
  ∀ (cursor behind : Cursor) (tokens : List Token), Token.lexemes tokens = w → Stand tokens →
    cursor.Run tokens behind → cursor.modes = modes →
    cursor.Nests tokens behind ∧ behind.modes = modes' ∧ found tokens

/-- Tokens can be divided wherever their lexemes can. -/
theorem Token.exists_of_lexemes_append {tokens : List Token} {w u : List Lexeme}
    (h : lexemes tokens = w ++ u) :
    ∃ front behind, tokens = front ++ behind ∧ lexemes front = w ∧ lexemes behind = u :=
  List.map_eq_append_iff.mp h

namespace Leads

variable {w u : List Lexeme} {modes modes' modes'' : Modes} {found found' : List Token → Prop}

/-- What is said about the tokens of a row may be weakened. -/
theorem mono (h : Leads w modes modes' found) (himp : ∀ tokens, found tokens → found' tokens) :
    Leads w modes modes' found' := by
  intro cursor behind tokens hlexemes hstand hrun hmodes
  obtain ⟨hnests, hbehind, hfound⟩ := h cursor behind tokens hlexemes hstand hrun hmodes
  exact ⟨hnests, hbehind, himp tokens hfound⟩

/-- Without lexemes a run stays where it is. -/
theorem nil : Leads [] modes modes fun tokens => tokens = [] := by
  intro cursor behind tokens hlexemes _ hrun hmodes
  obtain rfl := List.map_eq_nil_iff.mp hlexemes
  obtain rfl := Cursor.run_nil.mp hrun
  exact ⟨.nil _, hmodes, rfl⟩

/-- **One text and then another one lead on to what both are read as.** -/
theorem append (h : Leads w modes modes' found) (h' : Leads u modes' modes'' found') :
    Leads (w ++ u) modes modes'' fun tokens =>
      ∃ front behind, tokens = front ++ behind ∧ found front ∧ found' behind := by
  intro cursor behind tokens hlexemes hstand hrun hmodes
  obtain ⟨front, others, rfl, hfront, hothers⟩ := Token.exists_of_lexemes_append hlexemes
  obtain ⟨middle, hfirst, hsecond⟩ := Cursor.run_append.mp hrun
  obtain ⟨hnests, hmiddle, hfound⟩ := h cursor middle front hfront
    (fun token hmem => hstand token (List.mem_append_left _ hmem)) hfirst hmodes
  obtain ⟨hnests', hbehind, hfound'⟩ := h' middle behind others hothers
    (fun token hmem => hstand token (List.mem_append_right _ hmem)) hsecond hmiddle
  exact ⟨hnests.append hnests', hbehind, front, others, rfl, hfound, hfound'⟩

end Leads

/-! ### Single lexemes -/

/-- The one token that there is stands for the part that the lexeme stands for. -/
def Taken (lexeme : Lexeme) (spacing : Spacing) (tokens : List Token) : Prop :=
  ∃ part, lexeme.part? = some part ∧ part.isWritten = true ∧ Spells tokens [⟨part, spacing⟩] []

/-- The one token of a lexeme spells whatever part the lexeme stands for. -/
theorem Taken.spells {lexeme : Lexeme} {spacing : Spacing} {tokens : List Token} {part : Part}
    (h : Taken lexeme spacing tokens) (hpart : lexeme.part? = some part) :
    Spells tokens [⟨part, spacing⟩] [] := by
  obtain ⟨found, hfound, -, hspells⟩ := h
  obtain rfl := Option.some.inj (hfound.symm.trans hpart)
  exact hspells

/-- What a selector stands in when its tests are read: a chain, or an attribute whose value it
is. -/
def Modes.IsHost (modes : Modes) : Prop :=
  modes.current = .selector ∨ ∃ outer, modes = ⟨.valueSelector, .attributeEnd :: outer⟩

/-- What is asked of the blank before a token there: in a value there is none. -/
def Modes.spacing (modes : Modes) : Spacing :=
  if modes.current = .valueSelector then .attached else .free

variable {lexeme : Lexeme} {modes modes' : Modes}

/-- A single lexeme leads where taking its token does, in whatever way the modes are settled before
it. -/
theorem leads_single {spacing : Spacing}
    (h : ∀ (cursor behind : Cursor) (token : Token), cursor.modes = modes →
      cursor.next = .ok (token, behind) → token.lexeme = lexeme →
      cursor.settled.after? lexeme = some behind.modes →
      cursor.Keeps token ∧ behind.modes = modes' ∧ spacing.admits token.spaced = true) :
    Leads [lexeme] modes modes' (Taken lexeme spacing) := by
  intro cursor behind tokens hlexemes hstand hrun hmodes
  obtain ⟨token, rfl, rfl⟩ := List.map_eq_singleton_iff.mp hlexemes
  obtain ⟨next, hnext, hlast, hrest⟩ := Cursor.run_cons.mp hrun
  obtain rfl := Cursor.run_nil.mp hrest
  obtain ⟨hkeeps, hbehind, hspacing⟩ :=
    h cursor next token hmodes hnext rfl (Cursor.after?_of_next hnext hlast).1
  obtain ⟨part, hpart, hwritten⟩ := hstand token List.mem_cons_self
  exact ⟨.cons hnext hlast hkeeps (.nil _), hbehind, part, hpart, hwritten,
    .single ⟨hpart, hspacing⟩⟩

/-- Outside of a selector used as a value, the modes in force are those in which a token is
read. -/
theorem leads_of_after? (hmode : modes.current ≠ .valueSelector)
    (houter : modes.outer = [] → modes.current = .selector ∧ lexeme ≠ .closeParen)
    (hafter : modes.after? lexeme = some modes') :
    Leads [lexeme] modes modes' (Taken lexeme .free) := by
  refine leads_single fun cursor behind token hmodes _ hlexeme hfound => ?_
  rw [← hmodes] at hmode
  have hsettled := (Cursor.settled_of_ne hmode).trans hmodes
  rw [hsettled, hafter] at hfound
  refine ⟨?_, (Option.some.inj hfound).symm, rfl⟩
  rw [Cursor.Keeps, hsettled, hlexeme]
  exact houter

/-- **With what does not end a value, the value goes on**: no blank stands before it. -/
theorem leads_host (hhost : modes.IsHost) (hparen : lexeme ≠ .closeParen)
    (hbracket : lexeme ≠ .closeBracket) (hafter : modes.after? lexeme = some modes') :
    Leads [lexeme] modes modes' (Taken lexeme modes.spacing) := by
  rcases hhost with hmode | ⟨outer, rfl⟩
  · rw [Modes.spacing, if_neg (by simp [hmode])]
    exact leads_of_after? (by simp [hmode]) (fun _ => ⟨hmode, hparen⟩) hafter
  · refine leads_single fun cursor behind token hmodes hnext hlexeme hfound => ?_
    have hlast : token.lexeme ≠ .endOfQuery := by
      rintro hlast
      rw [← hlexeme, hlast] at hafter
      cases hafter
    rcases Cursor.settled_valueSelector hmodes (by simp) with hsettled | hsettled
    · rw [hmodes] at hsettled
      have hspaced := (Cursor.after?_of_next hnext hlast).2 _ _ hsettled
      rw [hsettled, hafter] at hfound
      refine ⟨?_, (Option.some.inj hfound).symm, by simp [Modes.spacing, Spacing.admits, hspaced]⟩
      simp [Cursor.Keeps, hsettled]
    · rw [hsettled] at hfound
      cases lexeme <;> simp_all [Modes.after?]

/-- A bracket ends a value, be it a selector or not. -/
theorem leads_closeBracket {mode : Mode} {outer : List Mode}
    (h : modes = ⟨.attributeEnd, mode :: outer⟩ ∨
      modes = ⟨.valueSelector, .attributeEnd :: mode :: outer⟩) :
    Leads [.closeBracket] modes ⟨mode, outer⟩ (Taken .closeBracket .free) := by
  rcases h with rfl | rfl
  · exact leads_of_after? (by simp) (by simp) rfl
  · refine leads_single fun cursor behind token hmodes _ _ hfound => ?_
    rcases Cursor.settled_valueSelector hmodes (by simp) with hsettled | hsettled
    · rw [hsettled, hmodes] at hfound
      cases hfound
    · rw [hsettled] at hfound
      refine ⟨by simp [Cursor.Keeps, hsettled], (Option.some.inj hfound).symm, rfl⟩

/-- A chain is a host of tests, whatever is around it. -/
theorem Modes.isHost_selector (outer : List Mode) : IsHost ⟨.selector, outer⟩ := .inl rfl

/-- A selector used as the value of an attribute is a host of tests. -/
theorem Modes.isHost_valueSelector (outer : List Mode) :
    IsHost ⟨.valueSelector, .attributeEnd :: outer⟩ := .inr ⟨outer, rfl⟩

namespace Modes.IsHost

variable (h : modes.IsHost)
include h

/-- The mode of a host is one in which tests are read. -/
theorem readsTests : modes.current = .selector ∨ modes.current = .valueSelector := by
  rcases h with hmode | ⟨outer, rfl⟩
  · exact .inl hmode
  · exact .inr rfl

/-- The name of a pseudo class stays in the host. -/
theorem leads_pseudo (p : PseudoClass) :
    Leads [.pseudo p] modes modes (Taken (.pseudo p) modes.spacing) :=
  leads_host h (by simp) (by simp) (if_pos h.readsTests)

/-- A position stays in the host. -/
theorem leads_position (p : Position) :
    Leads [.position p] modes modes (Taken (.position p) modes.spacing) :=
  leads_host h (by simp) (by simp) (if_pos h.readsTests)

/-- An opening bracket enters the key of an attribute. -/
theorem leads_openBracket :
    Leads [.openBracket] modes (modes.push .key) (Taken .openBracket modes.spacing) :=
  leads_host h (by simp) (by simp) (if_pos h.readsTests)

/-- An opening parenthesis enters the query of a pseudo class. -/
theorem leads_openParen :
    Leads [.openParen] modes (modes.push .selector) (Taken .openParen modes.spacing) := by
  refine leads_host h (by simp) (by simp) ?_
  rcases h with hmode | ⟨outer, rfl⟩
  · simp [after?, hmode]
  · rfl

end Modes.IsHost

/-- A piece that has to be attached is one that may be. -/
theorem Spells.free {tokens rest : List Token} {part : Part} {spacing : Spacing}
    {pieces : List Piece} (h : Spells tokens (⟨part, spacing⟩ :: pieces) rest) :
    Spells tokens (⟨part, .free⟩ :: pieces) rest := by
  obtain ⟨token, behind, rfl, hfits, hrest⟩ := cons_iff.mp h
  exact .cons (Token.fits_free.mpr hfits.part) hrest

/-! ### What tokens spell, phrase by phrase -/

/-- The tokens spell a query. -/
def SpellsQuery (tokens : List Token) : Prop :=
  ∃ query : Query, query.isGrammatical = true ∧ Spells tokens (Chain.listPieces query) []

/-- Before the tokens of a chain the tokens are those of a chain, and before none they are so if
they are `given`, that is, if there are any. -/
structure SpellsFront (given : Bool) (tokens : List Token) : Prop where
  /-- There are tokens if they are given. -/
  ne_nil : given = true → tokens ≠ []
  /-- They stand before what may follow a selector. -/
  tail : ∀ tail, SpellsTail tail → SpellsTail (tokens ++ tail)

/-- The tokens spell a test by kind. -/
def SpellsKind (tokens : List Token) : Prop :=
  ∃ kind attributes, isKindName kind = true ∧ Attribute.allMeet grammar attributes = true ∧
    Spells tokens (⟨.kind kind, .free⟩ :: Attribute.rowPieces attributes) []

/-- The tokens spell a test by what can be found below. -/
def SpellsPseudo (spacing : Spacing) (tokens : List Token) : Prop :=
  ∃ test : PseudoTest, Query.isGrammatical test.query = true ∧
    Spells tokens (test.pieces spacing) []

/-- The tokens spell an attribute. -/
def SpellsAttribute (tokens : List Token) : Prop :=
  ∃ key operator value, grammar.onAttribute ⟨key, operator, value⟩ = true ∧
    value.meets grammar = true ∧ Spells tokens (Attribute.rowPieces [⟨key, operator, value⟩]) []

/-- The tokens spell attributes. -/
def SpellsRow (tokens : List Token) : Prop :=
  ∃ attributes, Attribute.allMeet grammar attributes = true ∧
    Spells tokens (Attribute.rowPieces attributes) []

/-- The tokens spell a value, up to the bracket behind it if `closing` is its piece. -/
def SpellsValue (closing : List Piece) (tokens : List Token) : Prop :=
  ∃ value : Value, value.isComposed = true ∧ value.meets grammar = true ∧
    Spells tokens (value.pieces ++ closing) []

/-- Where the lexemes of a phrase lead: **back to the modes in which they start**, and out of the
attribute if they are a value and the bracket behind it. -/
def Phrase.LeadsBack (w : List Lexeme) : Phrase → Prop
  | .query => ∀ outer, Leads w ⟨.selector, outer⟩ ⟨.selector, outer⟩ SpellsQuery
  | .chain => ∀ outer, Leads w ⟨.selector, outer⟩ ⟨.selector, outer⟩ SpellsChain
  | .selector => ∀ outer, Leads w ⟨.selector, outer⟩ ⟨.selector, outer⟩ (SpellsFront true)
  | .compound => (∀ outer, Leads w ⟨.selector, outer⟩ ⟨.selector, outer⟩ (SpellsFront true)) ∧
      ∀ name u, w = .kind name :: u → ∀ mode outer, Leads w ⟨.value, mode :: outer⟩
        ⟨.valueSelector, .attributeEnd :: mode :: outer⟩ (SpellsValue [])
  | .kindTest => (∀ outer, Leads w ⟨.selector, outer⟩ ⟨.selector, outer⟩ SpellsKind) ∧
      ∀ mode outer, Leads w ⟨.value, mode :: outer⟩
        ⟨.valueSelector, .attributeEnd :: mode :: outer⟩ SpellsKind
  | .pseudo => ∀ modes : Modes, modes.IsHost → Leads w modes modes (SpellsPseudo modes.spacing)
  | .attribute => ∀ modes : Modes, modes.IsHost → Leads w modes modes SpellsAttribute
  | .value => ∀ mode outer, Leads (w ++ [.closeBracket]) ⟨.value, mode :: outer⟩ ⟨mode, outer⟩
      (SpellsValue [⟨.closeBracket, .free⟩])

variable {w u : List Lexeme}

/-! ### What stands before a chain -/

namespace SpellsFront

/-- Where no tokens are given there may be none. -/
theorem nil : SpellsFront false [] := ⟨by simp, fun _ h => h⟩

/-- What stands in front may be put together from two parts, and there are tokens if either part
has some. -/
theorem append {given given' : Bool} {front behind : List Token} (h : SpellsFront given front)
    (h' : SpellsFront given' behind) : SpellsFront (given || given') (front ++ behind) := by
  refine ⟨fun hgiven => ?_, fun tail htail => ?_⟩
  · rcases Bool.or_eq_true_iff.mp hgiven with hgiven | hgiven
    · exact List.append_ne_nil_of_left_ne_nil (h.ne_nil hgiven) _
    · exact List.append_ne_nil_of_right_ne_nil _ (h'.ne_nil hgiven)
  · rw [List.append_assoc]
    exact h.tail _ (h'.tail tail htail)

/-- What is not empty and stands before what may follow a selector makes a chain of it. -/
theorem chain {tokens tail : List Token} (h : SpellsFront true tokens) (htail : SpellsTail tail) :
    SpellsChain (tokens ++ tail) := by
  rcases h.tail tail htail with hnil | hchain
  · exact absurd (List.append_eq_nil_iff.mp hnil).1 (h.ne_nil rfl)
  · exact hchain

/-- Tokens that make a chain of whatever may follow a selector stand in front of it. -/
theorem of_chain {tokens : List Token} (hne : tokens ≠ [])
    (h : ∀ tail, SpellsTail tail → SpellsChain (tokens ++ tail)) {given : Bool} :
    SpellsFront given tokens :=
  ⟨fun _ => hne, fun tail htail => .inr (h tail htail)⟩

end SpellsFront

/-! ### Queries and chains -/

/-- A query of one alternative leads back if the alternative does. -/
theorem leadsBack_oneChain (h : Phrase.chain.LeadsBack w) : Phrase.query.LeadsBack w := by
  refine fun outer => (h outer).mono ?_
  rintro tokens ⟨chain, hmeets, hspells⟩
  exact ⟨[chain], Query.isGrammatical_iff.mpr ⟨by simp, by simp [Chain.allMeet, hmeets]⟩, hspells⟩

/-- A query with one more alternative in front leads back if both of its parts do. -/
theorem leadsBack_moreChains (h : Phrase.chain.LeadsBack w) (h' : Phrase.query.LeadsBack u) :
    Phrase.query.LeadsBack (w ++ .comma :: u) := by
  intro outer
  have hcomma : Leads [.comma] ⟨.selector, outer⟩ ⟨.selector, outer⟩ (Taken .comma .free) :=
    leads_of_after? (by simp) (by simp) rfl
  refine ((h outer).append (hcomma.append (h' outer))).mono ?_
  rintro _ ⟨front, _, rfl, ⟨chain, hmeets, hchain⟩, comma, behind, rfl, htaken,
    query, hgrammatical, hquery⟩
  obtain ⟨hne, hothers⟩ := Query.isGrammatical_iff.mp hgrammatical
  refine ⟨chain :: query, Query.isGrammatical_iff.mpr ⟨by simp, ?_⟩, ?_⟩
  · rw [Chain.allMeet, hmeets, hothers]
    rfl
  · rw [Chain.listPieces_cons hne]
    have hbehind := Spells.append_nil_iff.mpr ⟨comma, behind, rfl, htaken.spells rfl, hquery⟩
    exact Spells.append_nil_iff.mpr ⟨front, _, rfl, hchain, hbehind⟩

/-- A chain of one selector leads back if the selector does. -/
theorem leadsBack_oneSelector (h : Phrase.selector.LeadsBack w) : Phrase.chain.LeadsBack w := by
  refine fun outer => (h outer).mono fun tokens hfront => ?_
  rw [← List.append_nil tokens]
  exact hfront.chain (.inl rfl)

/-- A chain with one more selector in front leads back if both of its parts do. -/
theorem leadsBack_moreSelectors (h : Phrase.selector.LeadsBack w) (h' : Phrase.chain.LeadsBack u) :
    Phrase.chain.LeadsBack (w ++ u) := by
  refine fun outer => ((h outer).append (h' outer)).mono ?_
  rintro _ ⟨front, behind, rfl, hfront, hchain⟩
  exact hfront.chain (.inr hchain)

/-! ### Moves -/

/-- A move in front of a selector, of which is known that it goes in front of a chain. -/
theorem leadsBack_move {lexeme : Lexeme}
    (hafter : ∀ outer, Modes.after? ⟨.selector, outer⟩ lexeme = some ⟨.selector, outer⟩)
    (hparen : lexeme ≠ .closeParen)
    (hmove : ∀ part token tokens, lexeme.part? = some part → part.isWritten = true →
      token.lexeme.part? = some part → SpellsChain tokens → SpellsChain (token :: tokens))
    (h : Phrase.selector.LeadsBack w) : Phrase.selector.LeadsBack (lexeme :: w) := by
  intro outer
  have hlexeme : Leads [lexeme] ⟨.selector, outer⟩ ⟨.selector, outer⟩ (Taken lexeme .free) :=
    leads_of_after? (by simp) (fun _ => ⟨rfl, hparen⟩) (hafter outer)
  refine (hlexeme.append (h outer)).mono ?_
  rintro _ ⟨_, behind, rfl, ⟨part, hpart, hwritten, hspells⟩, hfront⟩
  obtain ⟨token, rfl, hfits⟩ := hspells.single_nil
  exact .of_chain (by simp) fun tail htail =>
    hmove part token _ hpart hwritten hfits.part (hfront.chain htail)

/-- A selector with a scope in front leads back if the selector does. -/
theorem leadsBack_scope (path : String) (h : Phrase.selector.LeadsBack w) :
    Phrase.selector.LeadsBack (.scope path :: w) := by
  refine leadsBack_move (fun _ => rfl) (by simp) ?_ h
  rintro _ token tokens ⟨⟩ hwritten htoken hchain
  exact hchain.cons_scope hwritten htoken

/-- A selector with a combinator in front leads back if the selector does. -/
theorem leadsBack_combinator (combinator : Combinator) (h : Phrase.selector.LeadsBack w) :
    Phrase.selector.LeadsBack (.combinator combinator :: w) := by
  refine leadsBack_move (fun _ => rfl) (by simp) ?_ h
  rintro _ token tokens ⟨⟩ - htoken hchain
  exact hchain.cons_combinator htoken

/-! ### Tests of nodes -/

/-- Attributes in a row lead back to their host if each of them does, and they spell a row. -/
theorem leadsBack_attributes {row : List (List Lexeme)}
    (h : ∀ w ∈ row, Phrase.attribute.LeadsBack w) (hhost : modes.IsHost) :
    Leads row.flatten modes modes SpellsRow := by
  induction row with
  | nil =>
    refine Leads.nil.mono ?_
    rintro _ rfl
    exact ⟨[], rfl, .nil _⟩
  | cons w row ih =>
    obtain ⟨hfirst, hothers⟩ := List.forall_mem_cons.mp h
    refine ((hfirst modes hhost).append (ih hothers)).mono ?_
    rintro _ ⟨front, behind, rfl, ⟨key, operator, value, hdemands, hvalue, hspells⟩,
      attributes, hmeets, hspells'⟩
    refine ⟨⟨key, operator, value⟩ :: attributes, ?_, ?_⟩
    · rw [Attribute.allMeet, hdemands, hvalue, hmeets]
      rfl
    · have hrow := Spells.append_nil_iff.mpr ⟨front, behind, rfl, hspells, hspells'⟩
      simpa [Attribute.rowPieces] using hrow

/-- A kind with attributes leads back if each of the attributes does. -/
theorem leadsBack_kindTest (name : String) {row : List (List Lexeme)}
    (h : ∀ w ∈ row, Phrase.attribute.LeadsBack w) :
    Phrase.kindTest.LeadsBack (.kind name :: row.flatten) := by
  have hspells : ∀ tokens, (∃ front behind, tokens = front ++ behind ∧
      Taken (.kind name) .free front ∧ SpellsRow behind) → SpellsKind tokens := by
    rintro _ ⟨front, behind, rfl, ⟨_, ⟨⟩, hkind, hname⟩, attributes, hmeets, hrow⟩
    exact ⟨name, attributes, hkind, hmeets,
      Spells.append_nil_iff.mpr ⟨front, behind, rfl, hname, hrow⟩⟩
  constructor
  · intro outer
    have hkind : Leads [.kind name] ⟨.selector, outer⟩ ⟨.selector, outer⟩
        (Taken (.kind name) .free) := leads_of_after? (by simp) (by simp) rfl
    exact (hkind.append (leadsBack_attributes h (Modes.isHost_selector outer))).mono hspells
  · intro mode outer
    have hkind : Leads [.kind name] ⟨.value, mode :: outer⟩
        ⟨.valueSelector, .attributeEnd :: mode :: outer⟩ (Taken (.kind name) .free) :=
      leads_of_after? (by simp) (by simp) rfl
    exact (hkind.append (leadsBack_attributes h (Modes.isHost_valueSelector _))).mono hspells

/-- A pseudo class leads back to its host if the query in its parentheses leads back. -/
theorem leadsBack_pseudo (pseudoClass : PseudoClass) (h : Phrase.query.LeadsBack w) :
    Phrase.pseudo.LeadsBack (.pseudo pseudoClass :: .openParen :: w ++ [.closeParen]) := by
  intro modes hhost
  have hclose : Leads [.closeParen] (modes.push .selector) modes (Taken .closeParen .free) :=
    leads_of_after? (by simp [Modes.push]) (by simp [Modes.push]) rfl
  refine ((hhost.leads_pseudo pseudoClass).append ((hhost.leads_openParen.append
    (h _)).append hclose)).mono ?_
  rintro _ ⟨name, _, rfl, hname, _, closing, rfl, ⟨opening, inner, rfl, hopening, query,
    hgrammatical, hquery⟩, hclosing⟩
  refine ⟨⟨pseudoClass, query⟩, hgrammatical, ?_⟩
  have hparens := Spells.append_nil_iff.mpr ⟨_, closing, rfl, Spells.append_nil_iff.mpr
    ⟨opening, inner, rfl, (hopening.spells rfl).free, hquery⟩, hclosing.spells rfl⟩
  have hall := Spells.append_nil_iff.mpr ⟨name, _, rfl, hname.spells rfl, hparens⟩
  simpa [PseudoTest.pieces] using hall

/-- A position that may be missing. -/
theorem leads_position (hhost : modes.IsHost) (position : Option Position) :
    Leads (position.map Lexeme.position).toList modes modes fun tokens =>
      Spells tokens (positionPieces modes.spacing position) [] := by
  cases position with
  | none =>
    refine Leads.nil.mono ?_
    rintro _ rfl
    exact .nil _
  | some position => exact (hhost.leads_position position).mono fun _ h => h.spells rfl

/-- A pseudo class that may be missing. -/
theorem leads_pseudo {pseudo : Option (List Lexeme)} (h : ∀ w ∈ pseudo, Phrase.pseudo.LeadsBack w)
    (hhost : modes.IsHost) :
    Leads (pseudo.getD []) modes modes fun tokens => ∃ test : Option PseudoTest,
      test.isSome = pseudo.isSome ∧ (∀ found ∈ test, Query.isGrammatical found.query = true) ∧
        Spells tokens (pseudoPieces modes.spacing test) [] := by
  cases pseudo with
  | none =>
    refine Leads.nil.mono ?_
    rintro _ rfl
    exact ⟨none, rfl, by simp, .nil _⟩
  | some w =>
    refine (h w rfl modes hhost).mono ?_
    rintro tokens ⟨test, hgrammatical, hspells⟩
    exact ⟨some test, rfl, by simpa using hgrammatical, hspells⟩

/-- A position that may be missing stands in front of what may follow a selector. -/
theorem spellsFront_position {position : Option Position} {tokens : List Token}
    (h : Spells tokens (positionPieces .free position) []) :
    SpellsFront position.isSome tokens := by
  cases position with
  | none =>
    obtain rfl := Spells.nil_iff.mp h
    exact .nil
  | some position =>
    obtain ⟨token, rfl, hfits⟩ := h.single_nil
    exact .of_chain (by simp) fun tail htail => htail.cons_position hfits.part

/-- A pseudo class that may be missing stands in front of what may follow a selector. -/
theorem spellsFront_pseudo {test : Option PseudoTest} {tokens : List Token}
    (hgrammatical : ∀ found ∈ test, Query.isGrammatical found.query = true)
    (h : Spells tokens (pseudoPieces .free test) []) : SpellsFront test.isSome tokens := by
  rcases test with _ | ⟨pseudoClass, query⟩
  · obtain rfl := Spells.nil_iff.mp h
    exact .nil
  · refine .of_chain ?_ fun tail htail => htail.append_pseudo (hgrammatical _ rfl) h
    obtain ⟨token, behind, rfl, -⟩ := Spells.cons_iff.mp h
    simp

/-- A test by kind stands in front of what may follow a selector. -/
theorem SpellsKind.front {tokens : List Token} (h : SpellsKind tokens) :
    SpellsFront true tokens := by
  obtain ⟨kind, attributes, hkind, hmeets, hspells⟩ := h
  refine .of_chain ?_ fun tail htail => htail.append_kind hkind hmeets hspells
  rintro rfl
  cases hspells

/-- A test by kind that may be missing, in a chain. -/
theorem leads_kindTest {kindTest : Option (List Lexeme)}
    (h : ∀ w ∈ kindTest, Phrase.kindTest.LeadsBack w) (outer : List Mode) :
    Leads (kindTest.getD []) ⟨.selector, outer⟩ ⟨.selector, outer⟩
      (SpellsFront kindTest.isSome) := by
  cases kindTest with
  | none =>
    refine Leads.nil.mono ?_
    rintro _ rfl
    exact .nil
  | some w => exact ((h w rfl).1 outer).mono fun _ => SpellsKind.front

/-- Only a test by kind begins with a kind. -/
theorem exists_kindTest_eq_some {kindTest pseudo : Option (List Lexeme)}
    {position : Option Position} (hpseudo : ∀ w ∈ pseudo, Derives .pseudo w) {name : String}
    (h : kindTest.getD [] ++ pseudo.getD [] ++ (position.map Lexeme.position).toList =
      .kind name :: u) : ∃ w, kindTest = some w := by
  cases kindTest with
  | some w => exact ⟨w, rfl⟩
  | none =>
    cases pseudo with
    | some w =>
      obtain ⟨pseudoClass, _⟩ := hpseudo w rfl
      cases h
    | none => cases position <;> cases h

/-- Tests in a row lead back if each of them does, in a chain and as a value. In a chain each may
be separate from the others; as a value they are attached, and make one selector. -/
theorem leadsBack_tests {kindTest pseudo : Option (List Lexeme)} {position : Option Position}
    (hkind : ∀ w ∈ kindTest, Phrase.kindTest.LeadsBack w)
    (hpseudo : ∀ w ∈ pseudo, Phrase.pseudo.LeadsBack w)
    (hderives : ∀ w ∈ pseudo, Derives .pseudo w)
    (hgiven : (kindTest.isSome || pseudo.isSome || position.isSome) = true) :
    Phrase.compound.LeadsBack
      (kindTest.getD [] ++ pseudo.getD [] ++ (position.map Lexeme.position).toList) := by
  constructor
  · intro outer
    have hhost := Modes.isHost_selector outer
    refine (((leads_kindTest hkind outer).append (leads_pseudo hpseudo hhost)).append
      (leads_position hhost position)).mono ?_
    rintro _ ⟨_, behind, rfl, ⟨front, middle, rfl, hfront, test, hsome, hgrammatical, hmiddle⟩,
      hbehind⟩
    have hall := (hfront.append (spellsFront_pseudo hgrammatical hmiddle)).append
      (spellsFront_position hbehind)
    rwa [hsome, hgiven] at hall
  · intro name u heq mode outer
    obtain ⟨w, rfl⟩ := exists_kindTest_eq_some hderives heq
    have hhost := Modes.isHost_valueSelector (mode :: outer)
    refine (((hkind w rfl).2 mode outer |>.append (leads_pseudo hpseudo hhost)).append
      (leads_position hhost position)).mono ?_
    rintro _ ⟨_, behind, rfl, ⟨front, middle, rfl, ⟨kind, attributes, hname, hmeets, hfront⟩,
      test, -, hgrammatical, hmiddle⟩, hbehind⟩
    refine ⟨.selector
      { kindTest := some ⟨kind, attributes⟩, pseudoTest := test, position := position },
      rfl, ?_, ?_⟩
    · refine Selector.meets_iff.mpr ⟨hname, by simp, by simpa using hmeets, fun found hfound => ?_⟩
      exact Bool.and_eq_true_iff.mp (hgrammatical found hfound)
    · have hall := Spells.append_nil_iff.mpr ⟨_, behind, rfl,
        Spells.append_nil_iff.mpr ⟨front, middle, rfl, hfront, hmiddle⟩, hbehind⟩
      rw [Value.pieces, Selector.pieces_kind]
      simpa [Modes.spacing] using hall

/-! ### Attributes -/

/-- An attribute leads back to its host if its value leads out of the brackets. -/
theorem leadsBack_attribute (path : String) (operator : Operator) (h : Phrase.value.LeadsBack w) :
    Phrase.attribute.LeadsBack
      (.openBracket :: .key path :: .operator operator :: w ++ [.closeBracket]) := by
  intro modes hhost
  have hkey : Leads [.key path] (modes.push .key) ((modes.push .key).set .operator)
      (Taken (.key path) .free) := leads_of_after? (by simp [Modes.push]) (by simp [Modes.push]) rfl
  have hoperator : Leads [.operator operator] ((modes.push .key).set .operator)
      ⟨.value, modes.current :: modes.outer⟩ (Taken (.operator operator) .free) :=
    leads_of_after? (by simp [Modes.set]) (by simp [Modes.set, Modes.push]) rfl
  refine (hhost.leads_openBracket.append (hkey.append (hoperator.append
    (h modes.current modes.outer)))).mono ?_
  rintro _ ⟨opening, _, rfl, hopening, key, _, rfl, ⟨_, ⟨⟩, hwritten, hkey⟩, sign, behind, rfl,
    hsign, value, hcomposed, hmeets, hvalue⟩
  refine ⟨KeyPath.ofChars path.toList, operator, value, Bool.and_eq_true_iff.mpr
    ⟨hwritten, hcomposed⟩, hmeets, ?_⟩
  have hattribute := Spells.append_nil_iff.mpr ⟨opening, _, rfl, (hopening.spells rfl).free,
    Spells.append_nil_iff.mpr ⟨key, _, rfl, hkey, Spells.append_nil_iff.mpr
      ⟨sign, behind, rfl, hsign.spells rfl, hvalue⟩⟩⟩
  simpa [Attribute.rowPieces] using hattribute

/-- A scalar lexeme stands for a scalar. -/
theorem Taken.exists_scalar {lexeme : Lexeme} {tokens : List Token} (h : Taken lexeme .free tokens)
    (hlexeme : lexeme.isScalar = true) :
    ∃ value : Value, value.isScalar = true ∧ Spells tokens [⟨.scalar value, .free⟩] [] := by
  obtain ⟨part, hpart, hwritten, hspells⟩ := h
  obtain ⟨value, rfl⟩ : ∃ value, part = .scalar value := by
    cases lexeme with
    | text value => exact ⟨_, (Option.some.inj hpart).symm⟩
    | word value => exact ⟨_, (Option.some.inj hpart).symm⟩
    | pattern source flags =>
      obtain ⟨pattern, -, rfl⟩ := Option.map_eq_some_iff.mp hpart
      exact ⟨_, rfl⟩
    | _ => cases hlexeme
  exact ⟨value, hwritten, hspells⟩

/-- The elements of an array and the parenthesis behind them lead out of the array. -/
theorem leads_elements {scalars : List Lexeme}
    (h : ∀ lexeme ∈ scalars, lexeme.isScalar = true) (mode : Mode) (outer : List Mode) :
    Leads (scalars ++ [.closeParen]) ⟨.array, mode :: outer⟩ ⟨mode, outer⟩ fun tokens =>
      ∃ items : List Value, items.all Value.isScalar = true ∧
        Spells tokens (elementPieces items) [] := by
  induction scalars with
  | nil =>
    have hclose : Leads [.closeParen] ⟨.array, mode :: outer⟩ ⟨mode, outer⟩
        (Taken .closeParen .free) := leads_of_after? (by simp) (by simp) rfl
    exact hclose.mono fun _ hclosing => ⟨[], rfl, hclosing.spells rfl⟩
  | cons lexeme scalars ih =>
    obtain ⟨hlexeme, hothers⟩ := List.forall_mem_cons.mp h
    have hfirst : Leads [lexeme] ⟨.array, mode :: outer⟩ ⟨.array, mode :: outer⟩
        (Taken lexeme .free) :=
      leads_of_after? (by simp) (by simp) (Modes.after?_scalar hlexeme)
    refine (hfirst.append (ih hothers)).mono ?_
    rintro _ ⟨front, behind, rfl, htaken, items, hitems, hbehind⟩
    obtain ⟨value, hvalue, hfront⟩ := htaken.exists_scalar hlexeme
    refine ⟨value :: items, by rw [List.all_cons, hvalue, hitems]; rfl, ?_⟩
    exact Spells.append_nil_iff.mpr ⟨front, behind, rfl, hfront, hbehind⟩

/-- An array leads out of its attribute, with the bracket behind it. -/
theorem leadsBack_array {scalars : List Lexeme} (h : ∀ lexeme ∈ scalars, lexeme.isScalar = true) :
    Phrase.value.LeadsBack (.openParen :: scalars ++ [.closeParen]) := by
  intro mode outer
  have hopen : Leads [.openParen] ⟨.value, mode :: outer⟩ ⟨.array, .attributeEnd :: mode :: outer⟩
      (Taken .openParen .free) := leads_of_after? (by simp) (by simp) rfl
  have hclose : Leads [.closeBracket] ⟨.attributeEnd, mode :: outer⟩ ⟨mode, outer⟩
      (Taken .closeBracket .free) := leads_closeBracket (.inl rfl)
  refine ((hopen.append (leads_elements h _ _)).append hclose).mono ?_
  rintro _ ⟨_, closing, rfl, ⟨opening, behind, rfl, hopening, items, hitems, hbehind⟩, hclosing⟩
  refine ⟨.array items, hitems, rfl, ?_⟩
  exact Spells.append_nil_iff.mpr ⟨_, closing, rfl, Spells.append_nil_iff.mpr
    ⟨opening, behind, rfl, hopening.spells rfl, hbehind⟩, hclosing.spells rfl⟩

/-- A compound that begins with a kind leads out of the attribute whose value it is, with the
bracket behind it. -/
theorem leadsBack_selectorValue (name : String) (h : Phrase.compound.LeadsBack (.kind name :: w)) :
    Phrase.value.LeadsBack (.kind name :: w) := by
  intro mode outer
  refine ((h.2 name w rfl mode outer).append (leads_closeBracket (.inr rfl))).mono ?_
  rintro _ ⟨front, closing, rfl, ⟨value, hcomposed, hmeets, hfront⟩, hclosing⟩
  rw [List.append_nil] at hfront
  exact ⟨value, hcomposed, hmeets,
    Spells.append_nil_iff.mpr ⟨front, closing, rfl, hfront, hclosing.spells rfl⟩⟩

/-- A scalar leads out of its attribute, with the bracket behind it. -/
theorem leadsBack_scalar {lexeme : Lexeme} (h : lexeme.isScalar = true) :
    Phrase.value.LeadsBack [lexeme] := by
  intro mode outer
  have hlexeme : Leads [lexeme] ⟨.value, mode :: outer⟩ ⟨.attributeEnd, mode :: outer⟩
      (Taken lexeme .free) := leads_of_after? (by simp) (by simp) (Modes.after?_scalar h)
  refine (hlexeme.append (leads_closeBracket (.inl rfl))).mono ?_
  rintro _ ⟨front, closing, rfl, htaken, hclosing⟩
  obtain ⟨value, hvalue, hfront⟩ := htaken.exists_scalar h
  refine ⟨value, Value.isComposed_of_isScalar hvalue, Value.meets_of_isScalar hvalue, ?_⟩
  rw [Value.pieces_of_isScalar hvalue]
  exact Spells.append_nil_iff.mpr ⟨front, closing, rfl, hfront, hclosing.spells rfl⟩

/-! ### Derivations -/

/-- **Every derivation leads back to the modes in which it starts, and its tokens spell what the
phrase is.** -/
theorem Derives.leadsBack {phrase : Phrase} (h : Derives phrase w) : phrase.LeadsBack w := by
  induction h with
  | oneChain _ ih => exact leadsBack_oneChain ih
  | moreChains _ _ ih ih' => exact leadsBack_moreChains ih ih'
  | oneSelector _ ih => exact leadsBack_oneSelector ih
  | moreSelectors _ _ ih ih' => exact leadsBack_moreSelectors ih ih'
  | scope path _ ih => exact leadsBack_scope path ih
  | combinator combinator _ ih => exact leadsBack_combinator combinator ih
  | compound _ ih => exact ih.1
  | tests kindTest pseudo position hkind hpseudo hgiven ihkind ihpseudo =>
    exact leadsBack_tests ihkind ihpseudo hpseudo hgiven
  | kindTest name attributes _ ih => exact leadsBack_kindTest name ih
  | pseudo pseudoClass _ ih => exact leadsBack_pseudo pseudoClass ih
  | brackets path operator _ ih => exact leadsBack_attribute path operator ih
  | array scalars hscalars => exact leadsBack_array hscalars
  | selectorValue name _ ih => exact leadsBack_selectorValue name ih
  | scalar hlexeme => exact leadsBack_scalar hlexeme

end TreeQuery
