import TreeQuery.Proofs.Query.Modes

/-!
# The grammar of queries

The grammar that reading follows, as a relation between phrases and rows of lexemes. It knows
nothing of blanks, and so it is ambiguous: a pseudo class behind a kind may belong to the kind or
begin a selector of its own.

What spells a query is derived by the grammar. The induction follows the query, each of whose parts
is derived as the phrase that it is.

## Main definitions and results

* `Phrase`, `Derives` — the phrases of the grammar and the lexemes that they derive.
* `Query.derives`: **the lexemes of tokens that spell a query derive from the grammar**.
-/

namespace TreeQuery

/-! ### The grammar -/

/-- What the grammar speaks of. -/
inductive Phrase where
  /-- Alternatives with a comma between two of them. -/
  | query
  /-- One or more selectors. -/
  | chain
  /-- Moves and a compound. -/
  | selector
  /-- A test by kind, a pseudo class and a position, at least one of them. -/
  | compound
  /-- A kind with attributes. -/
  | kindTest
  /-- A pseudo class with its query. -/
  | pseudo
  /-- A key, an operator and a value in brackets. -/
  | attribute
  /-- An array, a compound that begins with a kind, or a scalar. -/
  | value

/-- The lexemes that a phrase derives. -/
inductive Derives : Phrase → List Lexeme → Prop where
  /-- One alternative. -/
  | oneChain {w : List Lexeme} : Derives .chain w → Derives .query w
  /-- One more alternative in front. -/
  | moreChains {w u : List Lexeme} :
      Derives .chain w → Derives .query u → Derives .query (w ++ .comma :: u)
  /-- One selector. -/
  | oneSelector {w : List Lexeme} : Derives .selector w → Derives .chain w
  /-- One more selector in front. -/
  | moreSelectors {w u : List Lexeme} :
      Derives .selector w → Derives .chain u → Derives .chain (w ++ u)
  /-- A scope in front of a selector. -/
  | scope (path : String) {w : List Lexeme} :
      Derives .selector w → Derives .selector (.scope path :: w)
  /-- A combinator in front of a selector. -/
  | combinator (combinator : Combinator) {w : List Lexeme} :
      Derives .selector w → Derives .selector (.combinator combinator :: w)
  /-- No move. -/
  | compound {w : List Lexeme} : Derives .compound w → Derives .selector w
  /-- Tests in a row. **At least one of the three is there.** -/
  | tests (kindTest pseudo : Option (List Lexeme)) (position : Option Position) :
      (∀ w ∈ kindTest, Derives .kindTest w) → (∀ w ∈ pseudo, Derives .pseudo w) →
      (kindTest.isSome || pseudo.isSome || position.isSome) = true →
      Derives .compound
        (kindTest.getD [] ++ pseudo.getD [] ++ (position.map Lexeme.position).toList)
  /-- A kind and any number of attributes. -/
  | kindTest (name : String) (attributes : List (List Lexeme)) :
      (∀ w ∈ attributes, Derives .attribute w) →
      Derives .kindTest (.kind name :: attributes.flatten)
  /-- The query of a pseudo class stands in parentheses. -/
  | pseudo (pseudoClass : PseudoClass) {w : List Lexeme} : Derives .query w →
      Derives .pseudo (.pseudo pseudoClass :: .openParen :: w ++ [.closeParen])
  /-- A key, an operator and a value in brackets. -/
  | brackets (path : String) (operator : Operator) {w : List Lexeme} : Derives .value w →
      Derives .attribute (.openBracket :: .key path :: .operator operator :: w ++ [.closeBracket])
  /-- Scalars in parentheses. -/
  | array (scalars : List Lexeme) : (∀ lexeme ∈ scalars, lexeme.isScalar = true) →
      Derives .value (.openParen :: scalars ++ [.closeParen])
  /-- **A compound used as a value begins with a kind.** -/
  | selectorValue (name : String) {w : List Lexeme} : Derives .compound (.kind name :: w) →
      Derives .value (.kind name :: w)
  /-- A scalar. -/
  | scalar {lexeme : Lexeme} : lexeme.isScalar = true → Derives .value [lexeme]

/-! ### Tokens that spell pieces and nothing else -/

/-- The lexemes of tokens. -/
def Token.lexemes (tokens : List Token) : List Lexeme := tokens.map Token.lexeme

@[simp] theorem Token.lexemes_nil : lexemes [] = [] := rfl

@[simp] theorem Token.lexemes_cons (token : Token) (tokens : List Token) :
    lexemes (token :: tokens) = token.lexeme :: lexemes tokens := rfl

@[simp] theorem Token.lexemes_append (tokens more : List Token) :
    lexemes (tokens ++ more) = lexemes tokens ++ lexemes more := List.map_append

namespace Spells

variable {tokens rest : List Token} {pieces morePieces : List Piece}

/-- The tokens that spell pieces are in front of those that are left. -/
theorem exists_eq_append (h : Spells tokens pieces rest) :
    ∃ front, tokens = front ++ rest ∧ Spells front pieces [] := by
  induction h with
  | nil => exact ⟨[], rfl, .nil _⟩
  | @cons token _ _ _ _ hfits _ ih =>
    obtain ⟨front, rfl, hfront⟩ := ih
    exact ⟨token :: front, rfl, .cons hfits hfront⟩

/-- Tokens spell pieces in two groups exactly when they can be divided so that each part spells one
group. -/
theorem append_nil_iff :
    Spells tokens (pieces ++ morePieces) [] ↔
      ∃ front behind, tokens = front ++ behind ∧ Spells front pieces [] ∧
        Spells behind morePieces [] := by
  constructor
  · intro h
    obtain ⟨behind, hfirst, hsecond⟩ := append_iff.mp h
    obtain ⟨front, rfl, hfront⟩ := hfirst.exists_eq_append
    exact ⟨front, behind, rfl, hfront, hsecond⟩
  · rintro ⟨front, behind, rfl, hfirst, hsecond⟩
    exact (hfirst.with_rest behind).append hsecond

/-- One piece is spelled by one token. -/
theorem single_nil {piece : Piece} (h : Spells tokens [piece] []) :
    ∃ token, tokens = [token] ∧ token.Fits piece := by
  obtain ⟨token, behind, rfl, hfits, hrest⟩ := cons_iff.mp h
  obtain rfl := nil_iff.mp hrest
  exact ⟨token, rfl, hfits⟩

end Spells

/-- A lexeme that stands for a scalar is a scalar lexeme. -/
theorem Lexeme.isScalar_of_part? {lexeme : Lexeme} {value : Value}
    (h : lexeme.part? = some (.scalar value)) : lexeme.isScalar = true := by
  cases lexeme <;> simp_all [part?, isScalar]

/-! ### What spells a query derives from the grammar -/

/-- The lexemes of a value derive from the grammar. -/
def Value.Derived (value : Value) : Prop :=
  value.isComposed = true → value.meets grammar = true → ∀ tokens,
    Spells tokens value.pieces [] → Derives .value (Token.lexemes tokens)

/-- The lexemes of attributes in a row derive from the grammar, each attribute by itself. -/
def Attribute.RowDerived (attributes : List Attribute) : Prop :=
  Attribute.allMeet grammar attributes = true → ∀ tokens,
    Spells tokens (Attribute.rowPieces attributes) [] →
      ∃ row : List (List Lexeme), Token.lexemes tokens = row.flatten ∧
        ∀ w ∈ row, Derives .attribute w

/-- The lexemes of a selector derive from the grammar, and as a compound if it makes no move. -/
structure Selector.Derived (selector : Selector) : Prop where
  /-- As a selector. -/
  as_selector : selector.meets grammar = true → ∀ tokens, Spells tokens selector.pieces [] →
    Derives .selector (Token.lexemes tokens)
  /-- As a value. -/
  as_value : selector.meets grammar = true → selector.kindTest.isSome = true → ∀ tokens,
    Spells tokens selector.pieces [] → Derives .value (Token.lexemes tokens)

/-- The lexemes of a chain derive from the grammar. -/
def Chain.Derived (chain : Chain) : Prop :=
  chain.meets grammar = true → ∀ tokens, Spells tokens chain.pieces [] →
    Derives .chain (Token.lexemes tokens)

/-- The lexemes of a query derive from the grammar. -/
def Query.Derived (query : Query) : Prop :=
  query.isGrammatical = true → ∀ tokens, Spells tokens (Chain.listPieces query) [] →
    Derives .query (Token.lexemes tokens)

variable {tokens : List Token}

/-- The elements of an array are spelled by scalar lexemes and the parenthesis behind them. -/
theorem isScalar_of_spells_elements {items : List Value}
    (h : Spells tokens (elementPieces items) []) :
    ∃ scalars, Token.lexemes tokens = scalars ++ [.closeParen] ∧
      ∀ lexeme ∈ scalars, lexeme.isScalar = true := by
  induction items generalizing tokens with
  | nil =>
    obtain ⟨token, rfl, hfits⟩ := h.single_nil
    exact ⟨[], by simp [Lexeme.part?_eq_closeParen.mp hfits.part], by simp⟩
  | cons value items ih =>
    obtain ⟨token, behind, rfl, hfits, hrest⟩ := Spells.cons_iff.mp h
    obtain ⟨scalars, hlexemes, hscalars⟩ := ih hrest
    refine ⟨token.lexeme :: scalars, by simp [hlexemes], ?_⟩
    simpa using ⟨Lexeme.isScalar_of_part? hfits.part, hscalars⟩

/-- The lexeme of a scalar derives from the grammar. -/
theorem Value.derived_of_isScalar {value : Value} (h : value.isScalar = true) : value.Derived := by
  intro _ _ tokens hspells
  rw [Value.pieces_of_isScalar h] at hspells
  obtain ⟨token, rfl, hfits⟩ := hspells.single_nil
  exact .scalar (Lexeme.isScalar_of_part? hfits.part)

/-- The lexemes of an array derive from the grammar. -/
theorem Value.derived_array (items : List Value) : (Value.array items).Derived := by
  intro _ _ tokens hspells
  obtain ⟨token, behind, rfl, hfits, hrest⟩ := Spells.cons_iff.mp hspells
  obtain ⟨scalars, hlexemes, hscalars⟩ := isScalar_of_spells_elements hrest
  rw [Token.lexemes_cons, Lexeme.part?_eq_openParen.mp hfits.part, hlexemes]
  exact .array scalars hscalars

/-- Attributes in a row derive from the grammar if the value of the first one and the others do. -/
theorem Attribute.derived_cons {key : KeyPath} {operator : Operator} {value : Value}
    {attributes : List Attribute} (hvalue : value.Derived)
    (hattributes : Attribute.RowDerived attributes) :
    Attribute.RowDerived (⟨key, operator, value⟩ :: attributes) := by
  intro hgrammar tokens hspells
  rw [allMeet, Bool.and_eq_true, Bool.and_eq_true] at hgrammar
  obtain ⟨⟨hdemands, hmeets⟩, hothers⟩ := hgrammar
  obtain ⟨opening, _, rfl, hopening, hspells⟩ := Spells.cons_iff.mp hspells
  obtain ⟨path, _, rfl, hpath, hspells⟩ := Spells.cons_iff.mp hspells
  obtain ⟨sign, _, rfl, hsign, hspells⟩ := Spells.cons_iff.mp hspells
  obtain ⟨front, _, rfl, hfront, hspells⟩ := Spells.append_nil_iff.mp hspells
  obtain ⟨closing, behind, rfl, hclosing, hrest⟩ := Spells.cons_iff.mp hspells
  obtain ⟨row, hrow, hderives⟩ := hattributes hothers behind hrest
  obtain ⟨text, hkey, -⟩ := Lexeme.part?_eq_key.mp hpath.part
  have hfirst : Derives .attribute
      (.openBracket :: .key text :: .operator operator :: Token.lexemes front ++ [.closeBracket]) :=
    .brackets text operator (hvalue (Bool.and_eq_true_iff.mp hdemands).2 hmeets front hfront)
  refine ⟨_ :: row, ?_, List.forall_mem_cons.mpr ⟨hfirst, hderives⟩⟩
  simp [Lexeme.part?_eq_openBracket.mp hopening.part, hkey,
    Lexeme.part?_eq_operator.mp hsign.part, Lexeme.part?_eq_closeBracket.mp hclosing.part, hrow]

/-- The lexemes of a pseudo class derive from the grammar if those of its query do. -/
theorem PseudoTest.derives {test : PseudoTest} {spacing : Spacing}
    (hquery : Query.Derived test.query) (hgrammar : Query.isGrammatical test.query = true)
    (hspells : Spells tokens (test.pieces spacing) []) :
    Derives .pseudo (Token.lexemes tokens) := by
  obtain ⟨pseudoClass, query⟩ := test
  obtain ⟨name, _, rfl, hname, hspells⟩ := Spells.cons_iff.mp hspells
  obtain ⟨opening, _, rfl, hopening, hspells⟩ := Spells.cons_iff.mp hspells
  obtain ⟨inner, _, rfl, hinner, hspells⟩ := Spells.append_nil_iff.mp hspells
  obtain ⟨closing, rfl, hclosing⟩ := hspells.single_nil
  have hpseudo := Derives.pseudo pseudoClass (hquery hgrammar inner hinner)
  simpa [Lexeme.part?_eq_pseudo.mp hname.part, Lexeme.part?_eq_openParen.mp hopening.part,
    Lexeme.part?_eq_closeParen.mp hclosing.part] using hpseudo

/-- The lexemes of a position that may be missing. -/
theorem lexemes_of_spells_position {position : Option Position} {spacing : Spacing}
    (hspells : Spells tokens (positionPieces spacing position) []) :
    Token.lexemes tokens = (position.map Lexeme.position).toList := by
  cases position with
  | none =>
    obtain rfl := Spells.nil_iff.mp hspells
    rfl
  | some position =>
    obtain ⟨token, rfl, hfits⟩ := hspells.single_nil
    simp [Lexeme.part?_eq_position.mp hfits.part]

/-- The lexemes of a pseudo class that may be missing. -/
theorem lexemes_of_spells_pseudo {pseudoTest : Option PseudoTest} {spacing : Spacing}
    (hquery : ∀ test ∈ pseudoTest, Query.Derived test.query ∧ Query.isGrammatical test.query = true)
    (hspells : Spells tokens (pseudoPieces spacing pseudoTest) []) :
    ∃ pseudo : Option (List Lexeme), Token.lexemes tokens = pseudo.getD [] ∧
      ∀ w ∈ pseudo, Derives .pseudo w := by
  cases pseudoTest with
  | none =>
    obtain rfl := Spells.nil_iff.mp hspells
    exact ⟨none, rfl, by simp⟩
  | some test =>
    obtain ⟨hderived, hgrammar⟩ := hquery test rfl
    have hpseudo : Derives .pseudo (Token.lexemes tokens) :=
      PseudoTest.derives hderived hgrammar hspells
    exact ⟨some (Token.lexemes tokens), rfl, by simpa using hpseudo⟩

/-- The lexemes of a test of nodes that begins with a kind are a compound that does. -/
theorem Selector.exists_derives_of_kind {kind : String} {attributes : List Attribute}
    {pseudoTest : Option PseudoTest} {position : Option Position}
    (hattributes : Attribute.RowDerived attributes)
    (hgrammar : Attribute.allMeet grammar attributes = true)
    (hquery : ∀ test ∈ pseudoTest, Query.Derived test.query ∧ Query.isGrammatical test.query = true)
    (hspells : Spells tokens (pieces
      { kindTest := some ⟨kind, attributes⟩, pseudoTest := pseudoTest, position := position }) []) :
    ∃ w, Token.lexemes tokens = .kind kind :: w ∧ Derives .compound (.kind kind :: w) := by
  rw [pieces_kind] at hspells
  obtain ⟨name, _, rfl, hname, hspells⟩ := Spells.cons_iff.mp hspells
  obtain ⟨front, _, rfl, hfront, hspells⟩ := Spells.append_nil_iff.mp hspells
  obtain ⟨middle, behind, rfl, hmiddle, hbehind⟩ := Spells.append_nil_iff.mp hspells
  obtain ⟨row, hrow, hderives⟩ := hattributes hgrammar front hfront
  obtain ⟨pseudo, hpseudo, hpseudoDerives⟩ := lexemes_of_spells_pseudo hquery hmiddle
  have hposition := lexemes_of_spells_position hbehind
  have hkind : Derives .kindTest (.kind kind :: row.flatten) := .kindTest kind row hderives
  have htests := Derives.tests (some (.kind kind :: row.flatten)) pseudo position
    (by simpa using hkind) hpseudoDerives rfl
  refine ⟨row.flatten ++ pseudo.getD [] ++ (position.map Lexeme.position).toList, ?_, htests⟩
  simp [Lexeme.part?_eq_kind.mp hname.part, hrow, hpseudo, hposition]

/-- The lexemes of a selector derive from the grammar if those of what it is composed of do. -/
theorem Selector.derived {selector : Selector} (hnext : ∀ next ∈ selector.next, next.Derived)
    (hattributes : ∀ test ∈ selector.kindTest, Attribute.RowDerived test.attributes)
    (hquery : ∀ test ∈ selector.pseudoTest, Query.Derived test.query) : selector.Derived := by
  have hqueries : selector.meets grammar = true → ∀ test ∈ selector.pseudoTest,
      Query.Derived test.query ∧ Query.isGrammatical test.query = true := by
    intro hgrammar test htest
    exact ⟨hquery test htest, Bool.and_eq_true_iff.mpr ((meets_iff.mp hgrammar).2.2.2 test htest)⟩
  refine ⟨fun hgrammar tokens hspells => ?_, fun hgrammar hkind tokens hspells => ?_⟩
  · obtain ⟨hcomposed, hmeets, hrow, -⟩ := meets_iff.mp hgrammar
    rcases eq_of_isComposed hcomposed with ⟨path, next, -, rfl⟩ | ⟨combinator, next, rfl⟩ |
      ⟨⟨kind, attributes⟩, pseudoTest, position, -, rfl⟩ | ⟨test, position, rfl⟩ |
      ⟨position, rfl⟩
    · rw [pieces_scope] at hspells
      obtain ⟨move, behind, rfl, hmove, hrest⟩ := Spells.cons_iff.mp hspells
      obtain ⟨text, hlexeme, -⟩ := Lexeme.part?_eq_scope.mp hmove.part
      rw [Token.lexemes_cons, hlexeme]
      exact .scope text ((hnext next rfl).as_selector (hmeets next rfl) behind hrest)
    · rw [pieces_combinator] at hspells
      obtain ⟨move, behind, rfl, hmove, hrest⟩ := Spells.cons_iff.mp hspells
      rw [Token.lexemes_cons, Lexeme.part?_eq_combinator.mp hmove.part]
      exact .combinator combinator ((hnext next rfl).as_selector (hmeets next rfl) behind hrest)
    · obtain ⟨w, hlexemes, hderives⟩ := exists_derives_of_kind (hattributes _ rfl) (hrow _ rfl)
        (hqueries hgrammar) hspells
      rw [hlexemes]
      exact .compound hderives
    · rw [pieces_pseudo] at hspells
      obtain ⟨front, behind, rfl, hfront, hbehind⟩ := Spells.append_nil_iff.mp hspells
      obtain ⟨hderived, hquery⟩ := hqueries hgrammar test rfl
      have hpseudo : Derives .pseudo (Token.lexemes front) :=
        PseudoTest.derives hderived hquery hfront
      rw [Token.lexemes_append, lexemes_of_spells_position hbehind]
      exact .compound (.tests none (some (Token.lexemes front)) position (by simp)
        (by simpa using hpseudo) (by simp))
    · rw [pieces_position] at hspells
      obtain ⟨token, rfl, hfits⟩ := hspells.single_nil
      rw [Token.lexemes_cons, Lexeme.part?_eq_position.mp hfits.part]
      exact .compound (.tests none none (some position) (by simp) (by simp) rfl)
  · obtain ⟨hcomposed, -, hrow, -⟩ := meets_iff.mp hgrammar
    obtain ⟨kind, attributes, pseudoTest, position, -, rfl⟩ := eq_of_kindTest hcomposed hkind
    obtain ⟨w, hlexemes, hderives⟩ := exists_derives_of_kind (hattributes _ rfl) (hrow _ rfl)
      (hqueries hgrammar) hspells
    rw [hlexemes]
    exact .selectorValue kind hderives

/-- A selector whose lexemes derive from the grammar may stand in front of such a chain. -/
theorem Chain.derived_link {selector : Selector} {behind : Chain} (hselector : selector.Derived)
    (hbehind : behind.Derived) : (Chain.link selector behind).Derived := by
  intro hgrammar tokens hspells
  rw [meets, Bool.and_eq_true] at hgrammar
  obtain ⟨part, pieces, hpieces, hstarts⟩ := Chain.exists_pieces_eq_cons hgrammar.2
  obtain ⟨front, rest, rfl, hfront, hrest⟩ := Spells.append_nil_iff.mp hspells
  rw [hpieces] at hrest
  obtain ⟨-, hrest⟩ := Selector.ends_of_spells_separate hstarts hrest
  rw [Token.lexemes_append]
  exact .moreSelectors (hselector.as_selector hgrammar.1 front hfront)
    (hbehind hgrammar.2 rest (hpieces ▸ hrest))

/-- A chain whose lexemes derive from the grammar may stand in front of such a query. -/
theorem Query.derived_cons {chain : Chain} {query : Query} (hchain : chain.Derived)
    (hquery : Query.Derived query) : Query.Derived (chain :: query) := by
  intro hgrammar tokens hspells
  obtain ⟨-, hmeets⟩ := isGrammatical_iff.mp hgrammar
  rw [Chain.allMeet, Bool.and_eq_true] at hmeets
  by_cases hnil : query = []
  · subst hnil
    exact .oneChain (hchain hmeets.1 tokens hspells)
  · rw [Chain.listPieces_cons hnil] at hspells
    obtain ⟨front, _, rfl, hfront, hspells⟩ := Spells.append_nil_iff.mp hspells
    obtain ⟨comma, behind, rfl, hcomma, hbehind⟩ := Spells.cons_iff.mp hspells
    rw [Token.lexemes_append, Token.lexemes_cons, Lexeme.part?_eq_comma.mp hcomma.part]
    exact .moreChains (hchain hmeets.1 front hfront)
      (hquery (isGrammatical_iff.mpr ⟨hnil, hmeets.2⟩) behind hbehind)

/-- What derives from the grammar, part by part. -/
theorem derivedCases :
    QueryCases Value.Derived Attribute.RowDerived Selector.Derived Chain.Derived Query.Derived where
  scalar value harray hselector hcomposed :=
    Value.derived_of_isScalar (Value.isScalar_of_isComposed harray hselector hcomposed) hcomposed
  array items _ := Value.derived_array items
  selectorValue selector h hcomposed hgrammar := h.as_value hgrammar hcomposed
  noAttribute _ tokens hspells := by
    obtain rfl := Spells.nil_iff.mp hspells
    exact ⟨[], rfl, by simp⟩
  moreAttributes key operator value rest hvalue hrest := Attribute.derived_cons hvalue hrest
  selector selector hnext hkind hpseudo := Selector.derived hnext hkind hpseudo
  last selector h hgrammar tokens hspells := .oneSelector (h.as_selector hgrammar tokens hspells)
  link selector rest hselector hrest := Chain.derived_link hselector hrest
  noChain hgrammar := by cases hgrammar
  moreChains chain rest hchain hrest := Query.derived_cons hchain hrest

/-- **The lexemes of tokens that spell a query derive from the grammar.** -/
theorem Query.derives {query : Query} (hgrammar : query.isGrammatical = true)
    (hspells : Spells tokens (Chain.listPieces query) []) :
    Derives .query (Token.lexemes tokens) :=
  derivedCases.ofQuery query hgrammar tokens hspells

end TreeQuery
