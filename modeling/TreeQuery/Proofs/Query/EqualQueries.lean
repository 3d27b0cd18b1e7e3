import Mathlib.Data.List.Forall2
import TreeQuery.Proofs.Query.Reads

/-!
# Equal queries

Equal queries are written with the same parts in the same places, so that **tokens for one of them
resemble the other**. A query equals itself unless a double in it is not a number.

## Main results

* `Query.alike_of_beq`, `resembles_of_spells`: the pieces of equal queries are alike, and tokens for
  alike pieces resemble them.
* `Query.isGrammatical_of_beq`: what equals a grammatical query is grammatical.
* `Query.beq_self`: a query equals itself when it is grammatical and legible.
-/

namespace TreeQuery

/-- Pieces with alike parts. -/
abbrev AlikePieces : List Piece → List Piece → Prop :=
  List.Forall₂ fun p q => p.part.Alike q.part

namespace AlikePieces

variable {pieces pieces' more more' : List Piece}

/-- Alike pieces may be put behind alike pieces. -/
theorem append (h : AlikePieces pieces pieces') (hmore : AlikePieces more more') :
    AlikePieces (pieces ++ more) (pieces' ++ more') :=
  List.rel_append h hmore

/-- Pieces stay alike wherever blanks are put before them. -/
theorem separate (h : AlikePieces pieces pieces') (taken taken' : Part → Bool) :
    AlikePieces (Piece.separate taken pieces) (Piece.separate taken' pieces') := by
  rcases h with _ | ⟨hpart, hrest⟩
  · exact .nil
  · refine .cons ?_ hrest
    split <;> split <;> exact hpart

end AlikePieces

/-- Tokens for alike pieces resemble them. -/
theorem resembles_of_spells {tokens rest : List Token} {pieces pieces' : List Piece}
    (h : Spells tokens pieces rest) (halike : AlikePieces pieces pieces') :
    Resembles tokens pieces' := by
  induction h generalizing pieces' with
  | nil =>
    cases halike
    exact .nil _
  | cons hfits _ ih =>
    rcases halike with _ | ⟨hpart, hrest⟩
    exact ⟨⟨_, hfits.part, hpart⟩, ih hrest⟩

/-! ### Equal queries are alike -/

/-- Equal elements have alike pieces. -/
theorem alike_elementPieces {items items' : List Value} (h : Value.beqAll items items' = true) :
    AlikePieces (elementPieces items) (elementPieces items') := by
  induction items generalizing items' with
  | nil =>
    cases items' with
    | nil => exact .cons rfl .nil
    | cons _ _ => cases h
  | cons first others ih =>
    cases items' with
    | nil => cases h
    | cons first' others' =>
      obtain ⟨hfirst, hothers⟩ := Bool.and_eq_true_iff.mp h
      exact .cons hfirst (ih hothers)

/-- A position is alike however it is spaced. -/
theorem alike_positionPieces (spacing spacing' : Spacing) (position : Option Position) :
    AlikePieces (positionPieces spacing position) (positionPieces spacing' position) := by
  cases position with
  | none => exact .nil
  | some position => exact .cons rfl .nil

/-- Attributes are equal when their keys and operators are the same and their values equal. -/
theorem Attribute.beq_iff {a b : Attribute} :
    a.beq b = true ↔ a.key = b.key ∧ a.operator = b.operator ∧ a.value.beq b.value = true := by
  obtain ⟨key, operator, value⟩ := a
  simp [beq, and_assoc]

/-- Tests by kind are equal when their kinds are the same and their attributes equal. -/
theorem KindTest.beq_iff {a b : KindTest} :
    a.beq b = true ↔ a.kind = b.kind ∧ Attribute.beqAll a.attributes b.attributes = true := by
  obtain ⟨kind, attributes⟩ := a
  simp [beq]

/-- Tests by what is below are equal when their pseudo classes are the same and their queries
equal. -/
theorem PseudoTest.beq_iff {a b : PseudoTest} :
    a.beq b = true ↔ a.pseudoClass = b.pseudoClass ∧ Chain.beqAll a.query b.query = true := by
  obtain ⟨pseudoClass, query⟩ := a
  simp [beq]

/-- Equal selectors make the same moves and have equal tests. -/
theorem Selector.beq_iff {a b : Selector} :
    a.beq b = true ↔
      a.scope = b.scope ∧ a.combinator = b.combinator ∧
      Option.Rel (fun s t => Selector.beq s t = true) a.next b.next ∧
      Option.Rel (fun s t => KindTest.beq s t = true) a.kindTest b.kindTest ∧
      Option.Rel (fun s t => PseudoTest.beq s t = true) a.pseudoTest b.pseudoTest ∧
      a.position = b.position := by
  obtain ⟨scope, combinator, next, kindTest, pseudoTest, position⟩ := a
  obtain ⟨scope', combinator', next', kindTest', pseudoTest', position'⟩ := b
  rw [beq.eq_def]
  simp only [Bool.and_eq_true, beq_iff_eq, and_assoc]
  refine and_congr_right fun _ => and_congr_right fun _ => ?_
  refine and_congr ?_ (and_congr ?_ (and_congr_left fun _ => ?_))
  · cases next <;> cases next' <;> simp
  · cases kindTest <;> cases kindTest' <;> simp
  · cases pseudoTest <;> cases pseudoTest' <;> simp

/-- What equal queries have in common, part by part. -/
theorem alikeCases : QueryCases
    (fun value => ∀ other : Value, value.beq other = true → AlikePieces value.pieces other.pieces)
    (fun attributes => ∀ others, Attribute.beqAll attributes others = true →
      AlikePieces (Attribute.rowPieces attributes) (Attribute.rowPieces others))
    (fun selector => ∀ other : Selector, selector.beq other = true →
      AlikePieces selector.pieces other.pieces)
    (fun chain => ∀ other : Chain, chain.beq other = true → AlikePieces chain.pieces other.pieces)
    (fun query => ∀ other : Query, Query.beq query other = true →
      AlikePieces (Chain.listPieces query) (Chain.listPieces other)) where
  scalar value harray hselector other h := by
    cases value with
    | array items => exact absurd rfl (harray items)
    | selector s => exact absurd rfl (hselector s)
    | _ =>
      cases other <;> first | exact .cons h .nil | cases h
  array items _ other h := by
    cases other with
    | array items' => exact .cons rfl (alike_elementPieces h)
    | _ => cases h
  selectorValue selector ih other h := by
    cases other with
    | selector other => exact ih other h
    | _ => cases h
  noAttribute others h := by
    cases others with
    | nil => exact .nil
    | cons _ _ => cases h
  moreAttributes key operator value rest hvalue hrest others h := by
    cases others with
    | nil => cases h
    | cons other others =>
      obtain ⟨hfirst, hothers⟩ := Bool.and_eq_true_iff.mp h
      obtain ⟨key', operator', value'⟩ := other
      obtain ⟨rfl, rfl, hsame⟩ := Attribute.beq_iff.mp hfirst
      refine .cons rfl (.cons rfl (.cons rfl ?_))
      exact (hvalue value' hsame).append (.cons rfl (hrest others hothers))
  selector selector hnext hkind hpseudo other h := by
    obtain ⟨hscope, hcombinator, hn, hk, hp, hposition⟩ := Selector.beq_iff.mp h
    obtain ⟨scope, combinator, next, kindTest, pseudoTest, position⟩ := selector
    obtain ⟨scope', combinator', next', kindTest', pseudoTest', position'⟩ := other
    obtain rfl : scope = scope' := hscope
    obtain rfl : combinator = combinator' := hcombinator
    obtain rfl : position = position' := hposition
    rw [Selector.pieces.eq_def, Selector.pieces.eq_def]
    dsimp only
    refine .append (.append (.append (.append (.append ?_ ?_) ?_) ?_) ?_) ?_
    · cases scope with
      | none => exact .nil
      | some path => exact .cons rfl .nil
    · cases combinator with
      | none => exact .nil
      | some combinator => exact .cons rfl .nil
    · rcases hn with hn | _
      · exact hnext _ rfl _ hn
      · exact .nil
    · rcases hk with @⟨⟨kind, attributes⟩, ⟨kind', attributes'⟩, hk⟩ | _
      · obtain ⟨rfl, hattributes⟩ := KindTest.beq_iff.mp hk
        exact .cons rfl (hkind _ rfl _ hattributes)
      · exact .nil
    · rcases hp with @⟨⟨pseudoClass, query⟩, ⟨pseudoClass', query'⟩, hp⟩ | _
      · obtain ⟨rfl, hquery⟩ := PseudoTest.beq_iff.mp hp
        exact .cons rfl (.cons rfl ((hpseudo _ rfl _ hquery).append (.cons rfl .nil)))
      · exact .nil
    · exact alike_positionPieces _ _ position
  last selector ih other h := by
    cases other with
    | last other => exact ih other h
    | link _ _ => cases h
  link selector rest ih ih' other h := by
    cases other with
    | last _ => cases h
    | link other rest' =>
      obtain ⟨hselector, hrest⟩ := Bool.and_eq_true_iff.mp h
      exact (ih other hselector).append ((ih' rest' hrest).separate _ _)
  noChain other h := by
    cases other with
    | nil => exact .nil
    | cons _ _ => cases h
  moreChains chain rest ih ih' other h := by
    cases other with
    | nil => cases h
    | cons chain' rest' =>
      obtain ⟨hchain, hrest⟩ := Bool.and_eq_true_iff.mp h
      cases rest with
      | nil =>
        cases rest' with
        | nil => exact ih chain' hchain
        | cons _ _ => cases hrest
      | cons next others =>
        cases rest' with
        | nil => cases hrest
        | cons next' others' => exact (ih chain' hchain).append (.cons rfl (ih' _ hrest))

/-- **The pieces of equal queries are alike.** -/
theorem Query.alike_of_beq {query other : Query} (h : query.beq other = true) :
    AlikePieces (Chain.listPieces query) (Chain.listPieces other) :=
  alikeCases.ofQuery query other h

/-! ### Equal queries are both grammatical -/

/-- What equals a scalar that can be written is one. -/
theorem Value.isScalar_of_beq {value other : Value} (h : value.beq other = true)
    (hscalar : value.isScalar = true) : other.isScalar = true := by
  cases value with
  | pattern p =>
    cases other with
    | pattern p' =>
      obtain ⟨hsource, hflags⟩ := Bool.and_eq_true_iff.mp
        (show (p.source == p'.source && p.flags == p'.flags) = true from h)
      rw [isScalar, ← beq_iff_eq.mp hsource, ← beq_iff_eq.mp hflags]
      exact hscalar
    | _ => cases h
  | array items => cases hscalar
  | selector s => cases hscalar
  | integer _ | float _ | boolean _ | nil =>
    cases other <;> first | rfl | cases h
  | _ =>
    cases other <;> first | cases h | skip
    obtain rfl := beq_iff_eq.mp h
    exact hscalar

/-- Elements that equal scalars that can be written are such scalars. -/
theorem Value.all_isScalar_of_beqAll {items others : List Value}
    (h : beqAll items others = true) (hscalar : items.all isScalar = true) :
    others.all isScalar = true := by
  induction items generalizing others with
  | nil =>
    cases others with
    | nil => rfl
    | cons _ _ => cases h
  | cons first items ih =>
    cases others with
    | nil => cases h
    | cons first' others =>
      obtain ⟨hfirst, hothers⟩ := Bool.and_eq_true_iff.mp h
      obtain ⟨hscalar', hscalars⟩ := Bool.and_eq_true_iff.mp hscalar
      exact Bool.and_eq_true_iff.mpr ⟨isScalar_of_beq hfirst hscalar', ih hothers hscalars⟩

/-- What equals a selector composed as the grammar has it is composed in that way. -/
theorem Selector.isComposed_of_beq {selector other : Selector} (h : selector.beq other = true)
    (hcomposed : selector.isComposed = true) : other.isComposed = true := by
  obtain ⟨hscope, hcombinator, hn, hk, hp, hposition⟩ := beq_iff.mp h
  obtain ⟨scope', combinator', next', kindTest', pseudoTest', position'⟩ := other
  rcases eq_of_isComposed hcomposed with ⟨path, next, hpath, rfl⟩ | ⟨combinator, next, rfl⟩ |
    ⟨test, pseudoTest, position, hkind, rfl⟩ | ⟨test, position, rfl⟩ | ⟨position, rfl⟩ <;>
    obtain rfl := hscope <;> obtain rfl := hcombinator <;> obtain rfl := hposition <;> cases hn <;>
    rcases hk with hk | _
  · cases hp
    exact hpath
  · cases hp
    rfl
  · rename_i test'
    have hsame : isKindName test'.kind = true := by rwa [← (KindTest.beq_iff.mp hk).1]
    exact hsame
  · cases hp
    rfl
  · cases hp
    rfl

/-- Equal queries both have alternatives or both have none. -/
theorem isEmpty_eq_of_beqAll {query other : List Chain} (h : Chain.beqAll query other = true) :
    query.isEmpty = other.isEmpty := by
  cases query <;> cases other <;> first | rfl | cases h

/-- Related options are both there or both missing. -/
theorem isSome_eq_of_rel {α β : Type} {r : α → β → Prop} {x : Option α} {y : Option β}
    (h : Option.Rel r x y) : x.isSome = y.isSome := by
  cases h <;> rfl

/-- What is there on the right of related options has a counterpart on the left. -/
theorem exists_of_rel {α β : Type} {r : α → β → Prop} {x : Option α} {y : Option β}
    (h : Option.Rel r x y) {b : β} (hb : b ∈ y) : ∃ a ∈ x, r a b := by
  cases h with
  | some hr =>
    obtain rfl := Option.some.inj hb
    exact ⟨_, rfl, hr⟩
  | none => cases hb

/-- What is equal to something grammatical is grammatical, part by part. -/
theorem grammarCases : QueryCases
    (fun value => ∀ other : Value, value.beq other = true → value.isComposed = true →
      value.meets grammar = true → other.isComposed = true ∧ other.meets grammar = true)
    (fun attributes => ∀ others, Attribute.beqAll attributes others = true →
      Attribute.allMeet grammar attributes = true → Attribute.allMeet grammar others = true)
    (fun selector => ∀ other : Selector, selector.beq other = true →
      selector.meets grammar = true → other.meets grammar = true)
    (fun chain => ∀ other : Chain, chain.beq other = true → chain.meets grammar = true →
      other.meets grammar = true)
    (fun query => ∀ other : Query, Query.beq query other = true →
      Chain.allMeet grammar query = true → Chain.allMeet grammar other = true) where
  scalar value harray hselector other h hcomposed _ := by
    have hother := value.isScalar_of_beq h
      (Value.isScalar_of_isComposed harray hselector hcomposed)
    exact ⟨Value.isComposed_of_isScalar hother, Value.meets_of_isScalar hother⟩
  array items _ other h hcomposed _ := by
    cases other with
    | array items' => exact ⟨Value.all_isScalar_of_beqAll h hcomposed, rfl⟩
    | _ => cases h
  selectorValue selector ih other h hcomposed hgrammar := by
    cases other with
    | selector other =>
      refine ⟨?_, ih other h hgrammar⟩
      obtain ⟨-, -, -, hk, -, -⟩ := Selector.beq_iff.mp h
      exact (isSome_eq_of_rel hk).symm.trans hcomposed
    | _ => cases h
  noAttribute others h _ := by
    cases others with
    | nil => rfl
    | cons _ _ => cases h
  moreAttributes key operator value rest hvalue hrest others h hgrammar := by
    cases others with
    | nil => cases h
    | cons other others =>
      obtain ⟨hfirst, hothers⟩ := Bool.and_eq_true_iff.mp h
      obtain ⟨key', operator', value'⟩ := other
      obtain ⟨rfl, -, hsame⟩ := Attribute.beq_iff.mp hfirst
      simp only [Attribute.allMeet, grammar, Bool.and_eq_true] at hgrammar ⊢
      obtain ⟨⟨⟨hwritten, hcomposed⟩, hmeets⟩, hmore⟩ := hgrammar
      obtain ⟨hcomposed', hmeets'⟩ := hvalue value' hsame hcomposed hmeets
      exact ⟨⟨⟨hwritten, hcomposed'⟩, hmeets'⟩, hrest others hothers hmore⟩
  selector selector hnext hkind hpseudo other h hgrammar := by
    obtain ⟨-, -, hn, hk, hp, -⟩ := Selector.beq_iff.mp h
    obtain ⟨hcomposed, hn', hk', hp'⟩ := Selector.meets_iff.mp hgrammar
    refine Selector.meets_iff.mpr ⟨Selector.isComposed_of_beq h hcomposed, ?_, ?_, ?_⟩
    · intro next' hnext'
      obtain ⟨next, hs, hsame⟩ := exists_of_rel hn hnext'
      exact hnext next hs next' hsame (hn' next hs)
    · intro test' htest'
      obtain ⟨test, hs, hsame⟩ := exists_of_rel hk htest'
      exact hkind test hs _ (KindTest.beq_iff.mp hsame).2 (hk' test hs)
    · intro test' htest'
      obtain ⟨test, hs, hsame⟩ := exists_of_rel hp htest'
      obtain ⟨hdemand, hquery⟩ := hp' test hs
      have hqueries := (PseudoTest.beq_iff.mp hsame).2
      refine ⟨?_, hpseudo test hs _ hqueries hquery⟩
      change (!test'.query.isEmpty) = true
      rw [← isEmpty_eq_of_beqAll hqueries]
      exact hdemand
  last selector ih other h hgrammar := by
    cases other with
    | last other => exact ih other h hgrammar
    | link _ _ => cases h
  link selector rest ih ih' other h hgrammar := by
    cases other with
    | last _ => cases h
    | link other rest' =>
      obtain ⟨hselector, hrest⟩ := Bool.and_eq_true_iff.mp h
      obtain ⟨hmeets, hmeets'⟩ := Bool.and_eq_true_iff.mp hgrammar
      exact Bool.and_eq_true_iff.mpr ⟨ih other hselector hmeets, ih' rest' hrest hmeets'⟩
  noChain other h _ := by
    cases other with
    | nil => rfl
    | cons _ _ => cases h
  moreChains chain rest ih ih' other h hgrammar := by
    cases other with
    | nil => cases h
    | cons chain' rest' =>
      obtain ⟨hchain, hrest⟩ := Bool.and_eq_true_iff.mp h
      obtain ⟨hmeets, hmeets'⟩ := Bool.and_eq_true_iff.mp hgrammar
      exact Bool.and_eq_true_iff.mpr ⟨ih chain' hchain hmeets, ih' rest' hrest hmeets'⟩

/-- **What equals a grammatical query is grammatical.** -/
theorem Query.isGrammatical_of_beq {query other : Query} (h : query.beq other = true)
    (hgrammar : query.isGrammatical = true) : other.isGrammatical = true := by
  obtain ⟨hne, hmeets⟩ := Bool.and_eq_true_iff.mp hgrammar
  rw [isEmpty_eq_of_beqAll h] at hne
  exact Bool.and_eq_true_iff.mpr ⟨hne, grammarCases.ofQuery query other h hmeets⟩

/-! ### Queries that equal themselves -/

/-- A finite number equals itself; only what is not a number does not. -/
theorem Binary64.beq_self_of_isFinite {x : Binary64} (h : x.isFinite = true) : (x == x) = true := by
  have hnan : x.isNaN = false :=
    decide_eq_false (Nat.not_lt.mpr (Nat.le_of_lt (of_decide_eq_true h)))
  change (x.compare? x == some .eq) = true
  rw [compare?, hnan]
  simp

/-- A scalar whose numbers are finite equals itself. -/
theorem Value.beq_self_of_isFinite {value : Value} (hscalar : value.isScalar = true)
    (h : value.isFinite = true) : value.beq value = true := by
  cases value with
  | float x => exact Binary64.beq_self_of_isFinite h
  | array items => cases hscalar
  | selector s => cases hscalar
  | pattern p =>
    change (p.source == p.source && p.flags == p.flags) = true
    simp
  | _ => simp [beq]

/-- Elements equal themselves if all of them are scalars whose numbers are finite. -/
theorem Value.beqAll_self {items : List Value} (hscalar : items.all isScalar = true)
    (h : items.all isFinite = true) : beqAll items items = true := by
  induction items with
  | nil => rfl
  | cons first others ih =>
    obtain ⟨hfirst, hothers⟩ := Bool.and_eq_true_iff.mp hscalar
    obtain ⟨hfinite, hfinites⟩ := Bool.and_eq_true_iff.mp h
    exact Bool.and_eq_true_iff.mpr ⟨beq_self_of_isFinite hfirst hfinite, ih hothers hfinites⟩

/-- What is composed of legible parts equals itself, part by part. -/
theorem selfCases : QueryCases
    (fun value => value.isComposed = true → value.meets grammar = true → value.isLegible = true →
      value.meets legibility = true → value.beq value = true)
    (fun attributes => Attribute.allMeet grammar attributes = true →
      Attribute.allMeet legibility attributes = true →
      Attribute.beqAll attributes attributes = true)
    (fun selector => selector.meets grammar = true → selector.meets legibility = true →
      selector.beq selector = true)
    (fun chain => chain.meets grammar = true → chain.meets legibility = true →
      chain.beq chain = true)
    (fun query => Chain.allMeet grammar query = true → Chain.allMeet legibility query = true →
      Query.beq query query = true) where
  scalar value harray hselector hcomposed _ hlegible _ := by
    refine Value.beq_self_of_isFinite
      (Value.isScalar_of_isComposed harray hselector hcomposed) ?_
    cases value with
    | array items => exact absurd rfl (harray items)
    | identifier word => rfl
    | _ => exact hlegible
  array items _ hcomposed _ hlegible _ := Value.beqAll_self hcomposed hlegible
  selectorValue selector ih _ hgrammar _ hlegible := ih hgrammar hlegible
  noAttribute _ _ := rfl
  moreAttributes key operator value rest hvalue hrest hgrammar hlegible := by
    obtain ⟨hfirst, hothers⟩ := Bool.and_eq_true_iff.mp hgrammar
    obtain ⟨hdemands, hmeets⟩ := Bool.and_eq_true_iff.mp hfirst
    obtain ⟨-, hcomposed⟩ := Bool.and_eq_true_iff.mp hdemands
    obtain ⟨hfirst', hothers'⟩ := Bool.and_eq_true_iff.mp hlegible
    obtain ⟨hdemands', hmeets'⟩ := Bool.and_eq_true_iff.mp hfirst'
    obtain ⟨-, hvalue'⟩ := Bool.and_eq_true_iff.mp hdemands'
    have hsame := hvalue hcomposed hmeets hvalue' hmeets'
    exact Bool.and_eq_true_iff.mpr ⟨Attribute.beq_iff.mpr ⟨rfl, rfl, hsame⟩, hrest hothers hothers'⟩
  selector selector hnext hkind hpseudo hgrammar hlegible := by
    obtain ⟨-, hn, hk, hp⟩ := Selector.meets_iff.mp hgrammar
    obtain ⟨-, hn', hk', hp'⟩ := Selector.meets_iff.mp hlegible
    refine Selector.beq_iff.mpr ⟨rfl, rfl, ?_, ?_, ?_, rfl⟩
    · cases hs : selector.next with
      | none => exact .none
      | some next => exact .some (hnext _ hs (hn _ hs) (hn' _ hs))
    · cases hs : selector.kindTest with
      | none => exact .none
      | some test =>
        exact .some (KindTest.beq_iff.mpr ⟨rfl, hkind _ hs (hk _ hs) (hk' _ hs)⟩)
    · cases hs : selector.pseudoTest with
      | none => exact .none
      | some test =>
        exact .some (PseudoTest.beq_iff.mpr ⟨rfl, hpseudo _ hs (hp _ hs).2 (hp' _ hs).2⟩)
  last selector ih hgrammar hlegible := ih hgrammar hlegible
  link selector rest ih ih' hgrammar hlegible := by
    obtain ⟨hselector, hrest⟩ := Bool.and_eq_true_iff.mp hgrammar
    obtain ⟨hselector', hrest'⟩ := Bool.and_eq_true_iff.mp hlegible
    exact Bool.and_eq_true_iff.mpr ⟨ih hselector hselector', ih' hrest hrest'⟩
  noChain _ _ := rfl
  moreChains chain rest ih ih' hgrammar hlegible := by
    obtain ⟨hchain, hrest⟩ := Bool.and_eq_true_iff.mp hgrammar
    obtain ⟨hchain', hrest'⟩ := Bool.and_eq_true_iff.mp hlegible
    exact Bool.and_eq_true_iff.mpr ⟨ih hchain hchain', ih' hrest hrest'⟩

/-- **A query equals itself** when it is grammatical and legible. -/
theorem Query.beq_self {query : Query} (hgrammar : query.isGrammatical = true)
    (hlegible : query.isLegible = true) : query.beq query = true :=
  selfCases.ofQuery query (Bool.and_eq_true_iff.mp hgrammar).2 hlegible

end TreeQuery
