import TreeQuery.Proofs.Query.ValueText

/-!
# The text of queries

A query is read from its text as its pieces, mode by mode: a selector as one stands in a chain, or
behind an operator, up to the bracket that closes the attribute. **The only obstacles are the
attributes that run together**, at whatever depth they stand.

## Main definitions and results

* `Query.Settled` and its companions — what is settled about a query and its parts, wherever they
  stand.
* `Query.settled`: **a grammatical query is read from its text exactly when it is legible**.
-/

namespace TreeQuery

/-! ### What is settled -/

/-- What follows does not make a name longer. -/
def EndsName (rest : List Char) : Prop := ∀ c ∈ rest.head?, isNameChar c = false

/-- A mode in which the tests of a selector are read. -/
def Mode.ReadsTests (mode : Mode) : Prop := mode = .selector ∨ mode = .valueSelector

/-- A value, with the bracket that closes the attribute, is read exactly when it is legible. -/
def Value.Settled (value : Value) : Prop :=
  value.isComposed = true → value.meets grammar = true → ∀ mode outer rest,
    Settles (value.isLegible && value.meets legibility) (value.spelling ++ [']'])
      ⟨.value, mode :: outer⟩ (value.pieces ++ [⟨.closeBracket, .free⟩]) rest ⟨mode, outer⟩

/-- Attributes are read exactly when they are legible. -/
def Attribute.RowSettled (attributes : List Attribute) : Prop :=
  Attribute.allMeet grammar attributes = true → ∀ mode outer rest, mode.ReadsTests →
    Settles (Attribute.allMeet legibility attributes) (Attribute.rowSpelling attributes)
      ⟨mode, outer⟩ (Attribute.rowPieces attributes) rest ⟨mode, outer⟩

/-- A selector is read exactly when it is legible, in a chain and as a value. -/
structure Selector.Settled (selector : Selector) : Prop where
  /-- In a chain, before anything that does not make a name longer. -/
  in_chain : selector.meets grammar = true → ∀ outer rest, EndsName rest →
    Settles (selector.meets legibility) selector.spelling ⟨.selector, outer⟩ selector.pieces rest
      ⟨.selector, outer⟩
  /-- As a value, with the bracket that closes the attribute. -/
  as_value : selector.meets grammar = true → selector.kindTest.isSome = true → ∀ mode outer rest,
    Settles (selector.meets legibility) (selector.spelling ++ [']']) ⟨.value, mode :: outer⟩
      (selector.pieces ++ [⟨.closeBracket, .free⟩]) rest ⟨mode, outer⟩

/-- A chain is read exactly when it is legible. -/
def Chain.Settled (chain : Chain) : Prop :=
  chain.meets grammar = true → ∀ outer rest, EndsName rest →
    Settles (chain.meets legibility) chain.spelling ⟨.selector, outer⟩ chain.pieces rest
      ⟨.selector, outer⟩

/-- A query is read exactly when it is legible. -/
def Query.Settled (query : Query) : Prop :=
  query.isGrammatical = true → ∀ outer rest, EndsName rest →
    Settles query.isLegible (Chain.listSpelling query) ⟨.selector, outer⟩ (Chain.listPieces query)
      rest ⟨.selector, outer⟩

variable {mode : Mode} {outer : List Mode} {rest : List Char}

/-! ### Names behind a colon -/

/-- The spelling of a position that may be missing. -/
def positionSpelling : Option Position → List Char
  | some position => ':' :: position.name.toList
  | none => []

/-- The spelling of a pseudo class that may be missing. -/
def pseudoSpelling : Option PseudoTest → List Char
  | some test => test.spelling
  | none => []

/-- In both modes a colon has a name behind it. -/
theorem Mode.ReadsTests.beginsName (h : mode.ReadsTests) : Modes.BeginsName ⟨mode, outer⟩ ':' :=
  h.imp (fun hmode => ⟨hmode, rfl⟩) fun hmode => ⟨hmode, by decide, by decide⟩

/-- **A name behind a colon is read** up to a character that is no part of it, whether it is the
name of a pseudo class or of a position. -/
theorem reads_name {name : String} {lexeme : Lexeme} {part : Part} {spacing : Spacing}
    (hname : name.toList.all isNameChar = true)
    (hmeans : ∀ text, String.ofList (text.takeWhile isNameChar) = name →
      Scans ⟨mode, outer⟩ ':' text lexeme (text.dropWhile isNameChar) ⟨mode, outer⟩)
    (hpart : lexeme.part? = some part) (hrest : EndsName rest)
    (hspacing : spacing.admits false = true) :
    Reads (':' :: name.toList) ⟨mode, outer⟩ [⟨part, spacing⟩] rest ⟨mode, outer⟩ := by
  obtain ⟨htake, hdrop⟩ := takeWhile_append_of_stop (List.all_eq_true.mp hname) hrest
  have hscans := hmeans (name.toList ++ rest) (by rw [htake, String.ofList_toList])
  rw [hdrop] at hscans
  exact Reads.token lexeme ⟨mode, outer⟩ (by decide) (Modes.settle_continues rfl _ _)
    hscans.scan_eq hpart hspacing

/-- A position that may be missing is always read. -/
theorem settles_position (hmode : mode.ReadsTests) (position : Option Position)
    (hrest : EndsName rest) {spacing : Spacing} (hspacing : spacing.admits false = true) :
    Settles true (positionSpelling position) ⟨mode, outer⟩ (positionPieces spacing position) rest
      ⟨mode, outer⟩ := by
  cases position with
  | none => exact Reads.nil.settles
  | some position =>
    have hname : position.name.toList.all isNameChar = true := by cases position <;> decide
    exact (reads_name hname (fun _ => .position hmode.beginsName) rfl hrest hspacing).settles

/-- The name of a pseudo class is read behind its colon. -/
theorem reads_pseudoName (hmode : mode.ReadsTests) (p : PseudoClass) (hrest : EndsName rest)
    {spacing : Spacing} (hspacing : spacing.admits false = true) :
    Reads (':' :: p.name.toList) ⟨mode, outer⟩ [⟨.pseudo p, spacing⟩] rest ⟨mode, outer⟩ :=
  reads_name (by cases p <;> decide) (fun _ => .pseudo hmode.beginsName) rfl hrest hspacing

/-- The parenthesis behind a pseudo class is read, and opens a chain. -/
theorem reads_openParen (hmode : mode.ReadsTests) :
    Reads ['('] ⟨mode, outer⟩ [⟨.openParen, .free⟩] rest ⟨.selector, mode :: outer⟩ := by
  refine Reads.token .openParen ⟨mode, outer⟩ (by decide) (Modes.settle_continues rfl _ _)
    (fun offset => ?_) rfl rfl
  rcases hmode with rfl | rfl <;> rfl

/-- The parenthesis behind a query is read, and leads back to what is around the query. -/
theorem reads_closeParen :
    Reads [')'] ⟨.selector, mode :: outer⟩ [⟨.closeParen, .free⟩] rest ⟨mode, outer⟩ :=
  Reads.token .closeParen ⟨.selector, mode :: outer⟩ (by decide) (Modes.settle_of_ne (by simp) _ _)
    (fun _ => rfl) rfl rfl

/-- The comma between two alternatives is read. -/
theorem reads_comma :
    Reads [','] ⟨.selector, outer⟩ [⟨.comma, .free⟩] rest ⟨.selector, outer⟩ :=
  Reads.token .comma ⟨.selector, outer⟩ (by decide) (Modes.settle_of_ne (by simp) _ _)
    (fun _ => rfl) rfl rfl

/-- A pseudo class is read exactly when its query is. -/
theorem settles_pseudo (hmode : mode.ReadsTests) {test : PseudoTest}
    (hquery : Query.Settled test.query) (hgrammar : Query.isGrammatical test.query = true)
    {spacing : Spacing} (hspacing : spacing.admits false = true) :
    Settles (test.meets legibility) test.spelling ⟨mode, outer⟩ (test.pieces spacing) rest
      ⟨mode, outer⟩ := by
  obtain ⟨pseudoClass, query⟩ := test
  have hname : Settles true (':' :: pseudoClass.name.toList) ⟨mode, outer⟩
      [⟨.pseudo pseudoClass, spacing⟩] ('(' :: (Chain.listSpelling query ++ [')']) ++ rest)
      ⟨mode, outer⟩ :=
    (reads_pseudoName hmode pseudoClass (by rintro c ⟨⟩; decide) hspacing).settles
  have hopen : Settles true ['('] ⟨mode, outer⟩ [⟨.openParen, .free⟩]
      (Chain.listSpelling query ++ [')'] ++ rest) ⟨.selector, mode :: outer⟩ :=
    (reads_openParen hmode).settles
  have hinner : Settles (Query.isLegible query) (Chain.listSpelling query)
      ⟨.selector, mode :: outer⟩ (Chain.listPieces query) ([')'] ++ rest)
      ⟨.selector, mode :: outer⟩ := hquery hgrammar _ _ (by rintro c ⟨⟩; decide)
  have hclose : Settles true [')'] ⟨.selector, mode :: outer⟩ [⟨.closeParen, .free⟩] rest
      ⟨mode, outer⟩ := reads_closeParen.settles
  have hread := hname.append (hopen.append (hinner.append hclose))
  simpa [PseudoTest.spelling, PseudoTest.pieces, PseudoTest.meets, legibility, Query.isLegible]
    using hread

/-! ### Tests of nodes -/

/-- A pseudo class that may be missing is read exactly when its query is. -/
theorem settles_pseudo? (hmode : mode.ReadsTests) {pseudoTest : Option PseudoTest}
    (hquery : ∀ test ∈ pseudoTest, Query.Settled test.query ∧ Query.isGrammatical test.query = true)
    {spacing : Spacing} (hspacing : spacing.admits false = true) :
    Settles (pseudoTest.all (PseudoTest.meets legibility)) (pseudoSpelling pseudoTest) ⟨mode, outer⟩
      (pseudoPieces spacing pseudoTest) rest ⟨mode, outer⟩ := by
  cases pseudoTest with
  | none => exact Reads.nil.settles
  | some test =>
    obtain ⟨hsettled, hgrammar⟩ := hquery test rfl
    exact settles_pseudo hmode hsettled hgrammar hspacing

/-- **A kind is read** up to a character that is no part of its name, in a chain and at the front of
a value. The two differ in the modes behind it. -/
theorem reads_kind {kind : String} {modes modes' : Modes} (hkind : isKindName kind = true)
    (hmode : modes.current ≠ .valueSelector)
    (hmeans : ∀ text, text.head?.any isNameStart = true →
      Scans modes '.' text (.kind (String.ofList (text.takeWhile isNameChar)))
        (text.dropWhile isNameChar) modes') (hrest : EndsName rest) :
    Reads ('.' :: kind.toList) modes [⟨.kind kind, .free⟩] rest modes' := by
  obtain ⟨c, name, htext, hstart, hname⟩ := exists_kind_eq_cons hkind
  have hall : ∀ d ∈ c :: name, isNameChar d = true := by
    simpa [isNameChar_of_isNameStart hstart] using hname
  obtain ⟨htake, hdrop⟩ := takeWhile_append_of_stop (htext ▸ hall) hrest
  have hscans := hmeans (kind.toList ++ rest) (by rw [htext]; exact hstart)
  rw [htake, hdrop, String.ofList_toList] at hscans
  exact Reads.token (.kind kind) modes (by decide) (Modes.settle_of_ne hmode _ _)
    hscans.scan_eq rfl rfl

/-- What stands behind a kind: attributes, a pseudo class and a position. -/
def testsSpelling (attributes : List Attribute) (pseudoTest : Option PseudoTest)
    (position : Option Position) : List Char :=
  Attribute.rowSpelling attributes ++ (pseudoSpelling pseudoTest ++ positionSpelling position)

/-- What stands behind a kind does not make its name longer. -/
theorem endsName_testsSpelling {attributes : List Attribute} {pseudoTest : Option PseudoTest}
    {position : Option Position} (hrest : EndsName rest) :
    EndsName (testsSpelling attributes pseudoTest position ++ rest) := by
  rcases attributes with _ | ⟨⟨key, operator, value⟩, attributes⟩
  · rcases pseudoTest with _ | ⟨pseudoClass, query⟩
    · cases position with
      | none => exact hrest
      | some position =>
        rintro c ⟨⟩
        decide
    · rintro c hc
      obtain rfl : ':' = c := by
        simpa [testsSpelling, Attribute.rowSpelling, pseudoSpelling, PseudoTest.spelling] using hc
      decide
  · rintro c hc
    obtain rfl : '[' = c := by
      simpa [testsSpelling, Attribute.rowSpelling, Attribute.spelling] using hc
    decide

/-- What stands behind a kind is read exactly when it is legible. -/
theorem settles_tests (hmode : mode.ReadsTests) {attributes : List Attribute}
    {pseudoTest : Option PseudoTest} {position : Option Position}
    (hattributes : Attribute.RowSettled attributes)
    (hgrammar : Attribute.allMeet grammar attributes = true)
    (hquery : ∀ test ∈ pseudoTest, Query.Settled test.query ∧ Query.isGrammatical test.query = true)
    (hrest : EndsName rest) :
    Settles
      (Attribute.allMeet legibility attributes && pseudoTest.all (PseudoTest.meets legibility))
      (testsSpelling attributes pseudoTest position) ⟨mode, outer⟩
      (Attribute.rowPieces attributes ++
        (pseudoPieces .attached pseudoTest ++ positionPieces .attached position)) rest
      ⟨mode, outer⟩ := by
  have hposition : Settles true (positionSpelling position) ⟨mode, outer⟩
      (positionPieces .attached position) rest ⟨mode, outer⟩ :=
    settles_position hmode position hrest rfl
  have hpseudo : Settles (pseudoTest.all (PseudoTest.meets legibility)) (pseudoSpelling pseudoTest)
      ⟨mode, outer⟩ (pseudoPieces .attached pseudoTest) (positionSpelling position ++ rest)
      ⟨mode, outer⟩ := settles_pseudo? hmode hquery rfl
  have hread := (hattributes hgrammar mode outer _ hmode).append (hpseudo.append hposition)
  rw [Bool.and_true] at hread
  exact hread

/-! ### Selectors -/

namespace Selector

/-- A scope is spelled before the selector behind it. -/
theorem spelling_scope (path : KeyPath) (next : Selector) :
    spelling { scope := some path, next := some next } =
      path.spelling ++ ' ' :: next.spelling := by
  simp [spelling]

/-- A combinator is spelled before the selector behind it. -/
theorem spelling_combinator (combinator : Combinator) (next : Selector) :
    spelling { combinator := some combinator, next := some next } =
      combinator.sign :: ' ' :: next.spelling := by
  simp [spelling]

/-- A kind is spelled before the other tests. -/
theorem spelling_kind (kind : String) (attributes : List Attribute)
    (pseudoTest : Option PseudoTest) (position : Option Position) :
    spelling { kindTest := some ⟨kind, attributes⟩, pseudoTest := pseudoTest,
               position := position } =
      '.' :: kind.toList ++ testsSpelling attributes pseudoTest position := by
  cases pseudoTest <;> cases position <;>
    simp [spelling, KindTest.spelling, testsSpelling, pseudoSpelling, positionSpelling]

/-- A pseudo class is spelled before the position attached to it. -/
theorem spelling_pseudo (test : PseudoTest) (position : Option Position) :
    spelling { pseudoTest := some test, position := position } =
      test.spelling ++ positionSpelling position := by
  cases position <;> simp [spelling, positionSpelling]

theorem spelling_position (position : Position) :
    spelling { position := some position } = positionSpelling (some position) := by
  simp [spelling, positionSpelling]

/-- A test that begins with a kind is legible if its attributes and its pseudo class are. -/
theorem meets_legibility_kind (kind : String) (attributes : List Attribute)
    (pseudoTest : Option PseudoTest) (position : Option Position) :
    meets legibility
        { kindTest := some ⟨kind, attributes⟩, pseudoTest := pseudoTest, position := position } =
      (Attribute.allMeet legibility attributes &&
        pseudoTest.all (PseudoTest.meets legibility)) := by
  cases pseudoTest <;> simp [meets, KindTest.meets, legibility]

end Selector

/-- The spelling of a scope begins as a name does. -/
theorem KeyPath.exists_spelling_eq_cons {path : KeyPath} (h : path.isScope = true) :
    ∃ c text, path.spelling = c :: text ∧ isNameStart c = true := by
  obtain ⟨-, hfirst⟩ := Bool.and_eq_true_iff.mp h
  obtain ⟨segments⟩ := path
  dsimp only at hfirst
  split at hfirst
  · rename_i name rest
    obtain ⟨c, hc, hstart⟩ := (Option.any_eq_true _ _).mp hfirst
    obtain ⟨text, htext⟩ := List.head?_eq_some_iff.mp hc
    have hname : (Segment.name name).spelling = c :: text := htext
    have hhead : (KeyPath.mk (.name name :: rest)).spelling.head? = some c := by
      cases rest with
      | nil => simp [spelling, hname]
      | cons next rest =>
        rw [spelling, List.map_cons, List.map_cons, List.intercalate_cons_cons, hname]
        rfl
    obtain ⟨more, hspelling⟩ := List.head?_eq_some_iff.mp hhead
    exact ⟨c, more, hspelling, hstart⟩
  · cases hfirst

/-- A scope is always read in front of a blank. -/
theorem settles_scope {path : KeyPath} (hscope : path.isScope = true) (more : List Char) :
    Settles true path.spelling ⟨.selector, outer⟩ [⟨.scope path, .free⟩] (' ' :: more)
      ⟨.selector, outer⟩ := by
  have hwritten : path.isWritten = true := (Bool.and_eq_true_iff.mp hscope).1
  have hmeaning := KeyPath.ofChars_spelling_of_isWritten hwritten
  obtain ⟨c, text, htext, hstart⟩ := KeyPath.exists_spelling_eq_cons hscope
  have hpath : ∀ d ∈ text, isPathChar d = true := fun d hd =>
    path.isPathChar_of_mem_spelling hwritten (by rw [htext]; exact List.mem_cons_of_mem _ hd)
  obtain ⟨htake, hdrop⟩ := takeWhile_append_of_stop hpath
    (show ∀ d ∈ (' ' :: more).head?, isPathChar d = false by rintro d ⟨⟩; decide)
  rw [htext] at hmeaning ⊢
  have hscans : Scans ⟨.selector, outer⟩ c (text ++ ' ' :: more) _ _ _ := .scope rfl hstart
  rw [htake, hdrop] at hscans
  refine (Reads.token (.scope (String.ofList (c :: text))) ⟨.selector, outer⟩
    (isBlank_eq_false_of_isPathChar (isPathChar_of_isNameStart hstart))
    (Modes.settle_of_ne (by simp) _ _) hscans.scan_eq ?_ rfl).settles
  rw [Lexeme.part?, String.toList_ofList, hmeaning]

/-- A combinator is always read. -/
theorem settles_combinator (combinator : Combinator) (more : List Char) :
    Settles true [combinator.sign] ⟨.selector, outer⟩ [⟨.combinator combinator, .free⟩] more
      ⟨.selector, outer⟩ := by
  refine (Reads.token (.combinator combinator) ⟨.selector, outer⟩ (by cases combinator <;> decide)
    (Modes.settle_of_ne (by simp) _ _) (fun offset => ?_) rfl rfl).settles
  cases combinator <;> rfl

/-- A selector behind a blank. -/
theorem Selector.Settled.blank {selector : Selector} (h : selector.Settled)
    (hgrammar : selector.meets grammar = true) (hrest : EndsName rest) :
    Settles (selector.meets legibility) (' ' :: selector.spelling) ⟨.selector, outer⟩
      selector.pieces rest ⟨.selector, outer⟩ := by
  have hread := h.in_chain hgrammar outer rest hrest
  obtain ⟨part, pieces, hpieces, -⟩ := Selector.exists_pieces_eq_cons hgrammar
  rw [hpieces] at hread ⊢
  exact hread.blank (by decide) (by simp) rfl

/-- The bracket that closes an attribute is read behind its value. -/
theorem reads_closeBracket :
    Reads [']'] ⟨.attributeEnd, mode :: outer⟩ [⟨.closeBracket, .free⟩] rest ⟨mode, outer⟩ :=
  Reads.token .closeBracket ⟨.attributeEnd, mode :: outer⟩ (by decide)
    (Modes.settle_of_ne (by simp) _ _) (fun _ => rfl) rfl rfl

/-- The bracket that closes the attribute ends a selector used as a value too. -/
theorem reads_closeBracket_value :
    Reads [']'] ⟨.valueSelector, .attributeEnd :: mode :: outer⟩ [⟨.closeBracket, .free⟩] rest
      ⟨mode, outer⟩ := by
  refine Reads.token .closeBracket ⟨.attributeEnd, mode :: outer⟩ (by decide) ?_ (fun _ => rfl) rfl
    rfl
  rw [Modes.settle_ends rfl, Modes.settle_of_ne (by simp)]

section Selectors

variable {selector : Selector}
  (hattributes : ∀ test ∈ selector.kindTest, Attribute.RowSettled test.attributes)
  (hquery : ∀ test ∈ selector.pseudoTest, Query.Settled test.query)

include hquery in
/-- In a grammatical selector the query of the pseudo class is grammatical. -/
theorem Selector.settled_queries (hgrammar : selector.meets grammar = true) :
    ∀ test ∈ selector.pseudoTest,
      Query.Settled test.query ∧ Query.isGrammatical test.query = true := by
  intro test htest
  have hdemands := (meets_iff.mp hgrammar).2.2.2 test htest
  exact ⟨hquery test htest, Bool.and_eq_true_iff.mpr hdemands⟩

include hattributes hquery

/-- A selector in a chain, whatever it begins with. -/
theorem Selector.settles_in_chain (hnext : ∀ next ∈ selector.next, next.Settled)
    (hgrammar : selector.meets grammar = true) (hrest : EndsName rest) :
    Settles (selector.meets legibility) selector.spelling ⟨.selector, outer⟩ selector.pieces rest
      ⟨.selector, outer⟩ := by
  obtain ⟨hcomposed, hnextMeets, htests, -⟩ := meets_iff.mp hgrammar
  have hqueries := settled_queries hquery hgrammar
  have hbehind : ∀ next ∈ selector.next, Settles (next.meets legibility) (' ' :: next.spelling)
      ⟨.selector, outer⟩ next.pieces rest ⟨.selector, outer⟩ :=
    fun next h => (hnext next h).blank (hnextMeets next h) hrest
  rcases eq_of_isComposed hcomposed with ⟨path, next, hscope, rfl⟩ | ⟨combinator, next, rfl⟩ |
    ⟨⟨kind, attributes⟩, pseudoTest, position, hkind, rfl⟩ | ⟨test, position, rfl⟩ |
    ⟨position, rfl⟩
  · rw [spelling_scope, pieces_scope]
    simpa [meets, legibility] using (settles_scope hscope _).append (hbehind next rfl)
  · rw [spelling_combinator, pieces_combinator]
    simpa [meets, legibility] using (settles_combinator combinator _).append (hbehind next rfl)
  · have hread : Reads ('.' :: kind.toList) ⟨.selector, outer⟩ [⟨.kind kind, .free⟩]
        (testsSpelling attributes pseudoTest position ++ rest) ⟨.selector, outer⟩ :=
      reads_kind hkind (by simp) (fun _ => .kind rfl rfl) (endsName_testsSpelling hrest)
    rw [spelling_kind, pieces_kind, meets_legibility_kind]
    simpa using hread.settles.append
      (settles_tests (.inl rfl) (hattributes _ rfl) (htests _ rfl) hqueries hrest)
  · obtain ⟨hsettled, hquery⟩ := hqueries test rfl
    have hposition : Settles true (positionSpelling position) ⟨.selector, outer⟩
        (positionPieces .attached position) rest ⟨.selector, outer⟩ :=
      settles_position (.inl rfl) position hrest rfl
    have hpseudo : Settles (test.meets legibility) test.spelling ⟨.selector, outer⟩
        (test.pieces .free) (positionSpelling position ++ rest) ⟨.selector, outer⟩ :=
      settles_pseudo (.inl rfl) hsettled hquery rfl
    rw [spelling_pseudo, pieces_pseudo]
    simpa [meets, legibility] using hpseudo.append hposition
  · rw [spelling_position, pieces_position]
    simpa [meets, legibility, positionPieces] using
      settles_position (.inl rfl) (some position) hrest
        (show Spacing.free.admits false = true from rfl)

/-- A selector used as a value begins with a kind. -/
theorem Selector.settles_as_value (hgrammar : selector.meets grammar = true)
    (hkind : selector.kindTest.isSome = true) :
    Settles (selector.meets legibility) (selector.spelling ++ [']']) ⟨.value, mode :: outer⟩
      (selector.pieces ++ [⟨.closeBracket, .free⟩]) rest ⟨mode, outer⟩ := by
  obtain ⟨hcomposed, -, htests, -⟩ := meets_iff.mp hgrammar
  have hqueries := settled_queries hquery hgrammar
  obtain ⟨kind, attributes, pseudoTest, position, hname, rfl⟩ := eq_of_kindTest hcomposed hkind
  have hrest : EndsName (']' :: rest) := by
    rintro c ⟨⟩
    decide
  have hread : Reads ('.' :: kind.toList) ⟨.value, mode :: outer⟩ [⟨.kind kind, .free⟩]
      (testsSpelling attributes pseudoTest position ++ ']' :: rest)
      ⟨.valueSelector, .attributeEnd :: mode :: outer⟩ :=
    reads_kind hname (by simp) (fun _ => .kindValue rfl rfl) (endsName_testsSpelling hrest)
  have hbehind : Settles
      (Attribute.allMeet legibility attributes && pseudoTest.all (PseudoTest.meets legibility))
      (testsSpelling attributes pseudoTest position)
      ⟨.valueSelector, .attributeEnd :: mode :: outer⟩
      (Attribute.rowPieces attributes ++
        (pseudoPieces .attached pseudoTest ++ positionPieces .attached position))
      ([']'] ++ rest) ⟨.valueSelector, .attributeEnd :: mode :: outer⟩ :=
    settles_tests (.inr rfl) (hattributes _ rfl) (htests _ rfl) hqueries hrest
  have hall := (hread.settles.append hbehind).append reads_closeBracket_value.settles
  rw [spelling_kind, pieces_kind, meets_legibility_kind]
  simpa using hall

/-- A selector is settled if the parts that it is composed of are. -/
theorem Selector.settled (hnext : ∀ next ∈ selector.next, next.Settled) : selector.Settled where
  in_chain hgrammar _ _ hrest := settles_in_chain hattributes hquery hnext hgrammar hrest
  as_value hgrammar hkind _ _ _ := settles_as_value hattributes hquery hgrammar hkind

end Selectors

/-! ### Values -/

/-- A scalar is settled. -/
theorem Value.settled_of_isScalar {value : Value} (hscalar : value.isScalar = true) :
    value.Settled := by
  intro _ _ mode outer rest
  have hread : Settles value.isLegible value.spelling ⟨.value, mode :: outer⟩
      [⟨.scalar value, .free⟩] ([']'] ++ rest) ⟨.attributeEnd, mode :: outer⟩ :=
    settles_scalar hscalar (by rintro d ⟨⟩; decide)
  rw [meets_of_isScalar hscalar, pieces_of_isScalar hscalar]
  exact hread.append reads_closeBracket.settles

/-- An array is settled. -/
theorem Value.settled_array (items : List Value) : (Value.array items).Settled := by
  intro hcomposed _ mode outer rest
  have hread : Settles (items.all Value.isFinite) (Value.array items).spelling
      ⟨.value, mode :: outer⟩ (Value.array items).pieces ([']'] ++ rest)
      ⟨.attributeEnd, mode :: outer⟩ := settles_array (List.all_eq_true.mp hcomposed)
  exact hread.append reads_closeBracket.settles

/-- The first piece of a value may stand anywhere. -/
theorem Value.exists_pieces_eq_cons {value : Value} (hcomposed : value.isComposed = true)
    (hgrammar : value.meets grammar = true) :
    ∃ part pieces, value.pieces = ⟨part, .free⟩ :: pieces := by
  cases value with
  | array items => exact ⟨_, _, rfl⟩
  | selector s =>
    obtain ⟨part, pieces, heq, -⟩ := Selector.exists_pieces_eq_cons hgrammar
    exact ⟨part, pieces, heq⟩
  | _ => exact ⟨_, _, rfl⟩

/-- A value that begins with an equals sign is misread when it loses it. -/
theorem Value.misreads_tail {value : Value} (hcomposed : value.isComposed = true)
    (hgrammar : value.meets grammar = true) {text : List Char}
    (htext : value.spelling ++ [']'] = '=' :: text) :
    Misreads text ⟨.value, mode :: outer⟩ (value.pieces ++ [⟨.closeBracket, .free⟩]) rest := by
  obtain ⟨more, hspelling, rfl⟩ : ∃ more, value.spelling = '=' :: more ∧ text = more ++ [']'] := by
    cases hspelling : value.spelling with
    | nil => simp [hspelling] at htext
    | cons c more =>
      rw [hspelling] at htext
      obtain ⟨rfl, rfl⟩ := List.cons.inj htext
      exact ⟨more, rfl, rfl⟩
  have hscalar : value.isScalar = true := by
    cases value with
    | array items => simp [spelling] at hspelling
    | selector s =>
      rcases Selector.eq_of_isComposed (Selector.meets_iff.mp hgrammar).1 with
        ⟨path, next, -, rfl⟩ | ⟨combinator, next, rfl⟩ |
        ⟨⟨kind, attributes⟩, pseudoTest, position, -, rfl⟩ | ⟨test, position, rfl⟩ |
        ⟨position, rfl⟩
      · cases hcomposed
      · cases hcomposed
      · simp [spelling, Selector.spelling_kind] at hspelling
      · cases hcomposed
      · cases hcomposed
    | _ => exact hcomposed
  rw [pieces_of_isScalar hscalar]
  exact misreads_scalar_tail hscalar hspelling _

/-! ### Attributes -/

/-- The bracket behind a value makes no operator longer. -/
theorem Operator.keepsFrom_append (operator : Operator) (text : List Char) :
    operator.keepsFrom (text ++ [']']) = operator.keepsFrom text := by
  cases text with
  | nil => cases operator <;> rfl
  | cons c text => exact operator.keepsFrom_cons c _ _

/-- Attributes in a row are settled if the value of the first one and the others are. -/
theorem Attribute.settled_cons {key : KeyPath} {operator : Operator} {value : Value}
    {attributes : List Attribute} (hvalue : value.Settled)
    (hattributes : Attribute.RowSettled attributes) :
    Attribute.RowSettled (⟨key, operator, value⟩ :: attributes) := by
  intro hgrammar mode outer rest hmode
  rw [allMeet, Bool.and_eq_true, Bool.and_eq_true] at hgrammar
  obtain ⟨⟨hdemands, hmeets⟩, hothers⟩ := hgrammar
  obtain ⟨hkey, hcomposed⟩ := Bool.and_eq_true_iff.mp hdemands
  obtain ⟨c, text, htext⟩ : ∃ c text, value.spelling ++ [']'] = c :: text :=
    List.exists_cons_of_ne_nil (by simp)
  obtain ⟨part, pieces, hpieces⟩ := Value.exists_pieces_eq_cons hcomposed hmeets
  have hread := hvalue hcomposed hmeets mode outer (Attribute.rowSpelling attributes ++ rest)
  have htail : c = '=' → Misreads text ⟨.value, mode :: outer⟩
      (value.pieces ++ [⟨.closeBracket, .free⟩]) (Attribute.rowSpelling attributes ++ rest) := by
    rintro rfl
    exact Value.misreads_tail hcomposed hmeets htext
  rw [htext, hpieces, List.cons_append] at hread
  rw [hpieces, List.cons_append] at htail
  have hopen : Settles true ['['] ⟨mode, outer⟩ [⟨.openBracket, .free⟩]
      (key.spelling ++ (operator.spelling ++ c :: text) ++
        (Attribute.rowSpelling attributes ++ rest))
      ⟨.key, mode :: outer⟩ := by
    refine (Reads.token .openBracket ⟨mode, outer⟩ (by decide) (Modes.settle_continues rfl _ _)
      (fun offset => ?_) rfl rfl).settles
    rcases hmode with rfl | rfl <;> rfl
  have hoperator : Settles
      (operator.keepsFrom (c :: text) && (value.isLegible && value.meets legibility))
      (operator.spelling ++ c :: text) ⟨.operator, mode :: outer⟩
      (⟨.operator operator, .free⟩ :: ⟨part, .free⟩ :: (pieces ++ [⟨.closeBracket, .free⟩]))
      (Attribute.rowSpelling attributes ++ rest) ⟨mode, outer⟩ := settles_operator hread htail
  have hkeys : Settles (key.keepsFrom operator) key.spelling ⟨.key, mode :: outer⟩
      [⟨.key key, .free⟩]
      (operator.spelling ++ c :: text ++ (Attribute.rowSpelling attributes ++ rest))
      ⟨.operator, mode :: outer⟩ := by
    rw [List.append_assoc]
    exact settles_key operator hkey _
  have hall := (hopen.append (hkeys.append hoperator)).append
    (hattributes hothers mode outer rest hmode)
  rw [← htext, Operator.keepsFrom_append] at hall
  simpa [Attribute.rowSpelling, Attribute.spelling, rowPieces, hpieces, allMeet, legibility,
    Bool.and_assoc] using hall

/-! ### Chains and queries -/

/-- A chain is settled if its first selector and what is behind it are. -/
theorem Chain.settled_link {selector : Selector} {behind : Chain} (hselector : selector.Settled)
    (hbehind : behind.Settled) : (Chain.link selector behind).Settled := by
  intro hgrammar outer rest hrest
  rw [meets, Bool.and_eq_true] at hgrammar
  obtain ⟨part, pieces, hpieces, -⟩ := Chain.exists_pieces_eq_cons hgrammar.2
  have hread := hbehind hgrammar.2 outer rest hrest
  rw [hpieces] at hread
  have hspaced : Settles (behind.meets legibility) (' ' :: behind.spelling) ⟨.selector, outer⟩
      (Piece.separate selector.takes behind.pieces) rest ⟨.selector, outer⟩ := by
    rw [hpieces, Piece.separate]
    split
    · exact hread.blank (by decide) (by simp) rfl
    · exact hread.blank (by decide) (by simp) rfl
  have hfirst : Settles (selector.meets legibility) selector.spelling ⟨.selector, outer⟩
      selector.pieces (' ' :: behind.spelling ++ rest) ⟨.selector, outer⟩ :=
    hselector.in_chain hgrammar.1 outer _ (by rintro c ⟨⟩; decide)
  exact hfirst.append hspaced

/-- A query is settled if its first alternative and the others are. -/
theorem Query.settled_cons {chain : Chain} {query : Query} (hchain : chain.Settled)
    (hquery : Query.Settled query) : Query.Settled (chain :: query) := by
  intro hgrammar outer rest hrest
  rw [isGrammatical, List.isEmpty_cons, Bool.not_false, Bool.true_and, Chain.allMeet,
    Bool.and_eq_true] at hgrammar
  cases query with
  | nil =>
    have hread := hchain hgrammar.1 outer rest hrest
    simpa [isLegible, Chain.allMeet, Chain.listSpelling, Chain.listPieces] using hread
  | cons next others =>
    have hothers : Settles (isLegible (next :: others)) (Chain.listSpelling (next :: others))
        ⟨.selector, outer⟩ (Chain.listPieces (next :: others)) rest ⟨.selector, outer⟩ :=
      hquery (by simpa [isGrammatical] using hgrammar.2) outer rest hrest
    obtain ⟨part, pieces, hpieces⟩ : ∃ part pieces,
        Chain.listPieces (next :: others) = ⟨part, .free⟩ :: pieces := by
      rw [Chain.allMeet, Bool.and_eq_true] at hgrammar
      obtain ⟨part, pieces, heq, -⟩ := Chain.exists_pieces_eq_cons hgrammar.2.1
      cases others <;> simp [Chain.listPieces, heq]
    have hspaced : Settles (isLegible (next :: others)) (' ' :: Chain.listSpelling (next :: others))
        ⟨.selector, outer⟩ (Chain.listPieces (next :: others)) rest ⟨.selector, outer⟩ := by
      rw [hpieces] at hothers ⊢
      exact hothers.blank (by decide) (by simp) rfl
    have hcomma : Settles true [','] ⟨.selector, outer⟩ [⟨.comma, .free⟩]
        (' ' :: Chain.listSpelling (next :: others) ++ rest) ⟨.selector, outer⟩ :=
      reads_comma.settles
    have hfirst : Settles (chain.meets legibility) chain.spelling ⟨.selector, outer⟩ chain.pieces
        ([','] ++ ' ' :: Chain.listSpelling (next :: others) ++ rest) ⟨.selector, outer⟩ :=
      hchain hgrammar.1 outer _ (by rintro c ⟨⟩; decide)
    have hall := hfirst.append (hcomma.append hspaced)
    simpa [isLegible, Chain.allMeet, Chain.listSpelling, Chain.listPieces] using hall

/-- What is settled, part by part. -/
theorem settledCases :
    QueryCases Value.Settled Attribute.RowSettled Selector.Settled Chain.Settled Query.Settled where
  scalar value harray hselector hcomposed :=
    Value.settled_of_isScalar (Value.isScalar_of_isComposed harray hselector hcomposed) hcomposed
  array items _ := Value.settled_array items
  selectorValue selector h hcomposed hgrammar mode outer rest :=
    h.as_value hgrammar hcomposed mode outer rest
  noAttribute _ _ _ _ _ := Reads.nil.settles
  moreAttributes key operator value rest hvalue hrest := Attribute.settled_cons hvalue hrest
  selector selector hnext hkind hpseudo := Selector.settled hkind hpseudo hnext
  last selector h hgrammar outer rest hrest := h.in_chain hgrammar outer rest hrest
  link selector rest hselector hrest := Chain.settled_link hselector hrest
  noChain hgrammar := by cases hgrammar
  moreChains chain rest hchain hrest := Query.settled_cons hchain hrest

/-- **A grammatical query is read from its text exactly when it is legible**, wherever it stands. -/
theorem Query.settled (query : Query) : Query.Settled query := settledCases.ofQuery query

end TreeQuery
