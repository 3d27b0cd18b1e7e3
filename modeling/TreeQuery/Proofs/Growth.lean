import TreeQuery.Proofs.SameResults

/-!
# Growing an arena

Nodes that are finished later change nothing about those that are there, but for one thing: a node
that a later one holds gets it for its parent, and with the parent other siblings. **Siblings are
the only place where a search can notice that an arena has grown.** A query without a step to
siblings has the same result as before, every rule set has, and so does every query if no later node
holds an earlier one.

Literals are the one way from a node to nodes that were finished after it. The arena has to own what
its literals refer to; those of later nodes may refer to anything.

## Main definitions and results

* `Arena.ownsLiterals` — the literals of an arena refer to its own nodes.
* `Query.avoidsSiblings` — no step of a query, at any depth, goes to siblings.
* `Arena.Extends` — what an arena keeps in a larger one.
* `Arena.extends_add?`, `Arena.extends_of_foldlM`: **finishing nodes extends an arena.**
* `Arena.search_eq_of_grown`: searches among the earlier nodes do not notice it.
-/

namespace TreeQuery

open Slot

/-- Whether no step of a query goes to siblings, in pseudo classes and values too. -/
def Query.avoidsSiblings (query : Query) : Bool :=
  query.movesAlong fun combinator => decide (combinator = .child)

namespace Arena

variable {a b c : Arena} {node : ArenaNode} {nodes further : List ArenaNode}

/-- Whether all nodes that literals refer to are nodes of the arena. -/
def ownsLiterals (a : Arena) : Bool :=
  a.nodes.toList.all fun node =>
    node.literal.all fun value => value.nodes.all fun n => decide (n < a.size)

/-- An arena with further nodes behind its own. -/
structure Extends (a b : Arena) (further : List ArenaNode) : Prop where
  /-- No node is lost. -/
  size_le : a.size ≤ b.size
  /-- The nodes are the same. -/
  node_eq : ∀ n, n < a.size → b.node n = a.node n
  /-- The kinds of wrappers are the same. -/
  transparentKinds_eq : b.transparentKinds = a.transparentKinds
  /-- The parents are the same but for nodes that a further node holds. -/
  parent?_eq : ∀ n, (∀ node ∈ further, n ∉ node.held) → b.parent? n = a.parent? n

/-! ### Finishing nodes -/

theorem Extends.refl (a : Arena) : a.Extends a [] where
  size_le := Nat.le_refl _
  node_eq _ _ := rfl
  transparentKinds_eq := rfl
  parent?_eq _ _ := rfl

/-- Nodes can be added one after the other. -/
theorem Extends.trans (h : a.Extends b nodes) (h' : b.Extends c further) :
    a.Extends c (nodes ++ further) where
  size_le := Nat.le_trans h.size_le h'.size_le
  node_eq n hn := (h'.node_eq n (Nat.lt_of_lt_of_le hn h.size_le)).trans (h.node_eq n hn)
  transparentKinds_eq := h'.transparentKinds_eq.trans h.transparentKinds_eq
  parent?_eq n hn := by
    obtain ⟨hnodes, hfurther⟩ := List.forall_mem_append.mp hn
    exact (h'.parent?_eq n hfurther).trans (h.parent?_eq n hnodes)

/-- **Finishing one node** extends an arena by it. -/
theorem extends_add? (h : a.add? node = some b) : a.Extends b [node] where
  size_le := by
    rw [size_add? h]
    exact Nat.le_succ _
  node_eq n hn := by
    rw [node_add? h, if_neg (Nat.ne_of_lt hn)]
  transparentKinds_eq := by
    unfold add? at h
    split at h
    · cases h
      rfl
    · cases h
  parent?_eq n hn := by
    rw [parent?_add? h, if_neg (hn node (List.mem_singleton_self node))]

/-- **Finishing several nodes** extends an arena by them. -/
theorem extends_of_foldlM (h : nodes.foldlM add? a = some b) : a.Extends b nodes := by
  induction nodes generalizing a with
  | nil =>
    obtain rfl := Option.some.inj h
    exact .refl a
  | cons node nodes ih =>
    rw [List.foldlM_cons] at h
    obtain ⟨next, hnext, hrest⟩ := Option.bind_eq_some_iff.mp h
    exact (extends_add? hnext).trans (ih hrest)

/-! ### What the earlier nodes show -/

/-- Where literals refer to nodes of the arena alone, no literal leads beyond them. -/
theorem isInside_of_literal (h : a.ownsLiterals = true) {n : Nat} {value : Slot Nat}
    (hvalue : (a.node n).literal = some value) : value.IsInside (· < a.size) := by
  by_cases hn : n < a.nodes.size
  · have hnode : a.node n = a.nodes[n] := by
      rw [Arena.node, Array.getElem?_eq_getElem hn, Option.getD_some]
    have hliteral := List.all_eq_true.mp h _ (Array.getElem_mem_toList hn)
    rw [← hnode, hvalue] at hliteral
    intro m hm
    exact of_decide_eq_true (List.all_eq_true.mp hliteral m hm)
  · rw [Arena.node, Array.getElem?_eq_none (Nat.le_of_not_lt hn)] at hvalue
    cases hvalue

/-- The nodes of an arena are closed: what a node holds was finished before it. -/
theorem isClosed_tree (a : Arena) : a.tree.IsClosed (· < a.size) := by
  have hchild : ∀ n, n < a.size → ∀ c ∈ a.tree.childNodes n, c < a.size := by
    intro n hn c hc
    rw [childNodes_tree] at hc
    exact Nat.lt_trans (a.lt_of_mem_held hc) hn
  exact ⟨hchild, fun n hn name slot h c hc => hchild n hn c (a.mem_childNodes_of_accessor h hc)⟩

/-- **The trees of an arena and a larger one agree on the earlier nodes.** -/
theorem Extends.agreeOn (h : a.Extends b further) (hown : a.ownsLiterals = true) :
    a.tree.AgreeOn b.tree (· < a.size) where
  closed := a.isClosed_tree
  literal_isInside n _ slot hslot := isInside_of_literal hown hslot
  kind n hn := congrArg ArenaNode.kind (h.node_eq n hn).symm
  source n hn := congrArg ArenaNode.source (h.node_eq n hn).symm
  children n hn := congrArg (fun node => node.values.filter Slot.isChild) (h.node_eq n hn).symm
  accessor n hn := by
    funext name
    simp only [tree, h.node_eq n hn]
  literal n hn := congrArg ArenaNode.literal (h.node_eq n hn).symm
  isTransparent n hn := by
    simp only [tree, h.node_eq n hn, h.transparentKinds_eq]

/-- A parent is a node of the arena. -/
theorem lt_size_of_parent? {n p : Nat} (h : a.parent? n = some p) : p < a.size := by
  by_contra hp
  have hheld := mem_held_of_parent? h
  rw [node_of_size_le (Nat.le_of_not_lt hp)] at hheld
  cases hheld

/-- Where a parent stays, the siblings do, and they are earlier nodes. -/
theorem Extends.siblings_eq (h : a.Extends b further) {n : Nat}
    (hparent : b.parent? n = a.parent? n) :
    a.tree.siblings n = b.tree.siblings n ∧
      ∀ m ∈ Slot.nodesOfAll (a.tree.siblings n), m < a.size := by
  have hbehind : a.nodesBehind n = b.nodesBehind n ∧ ∀ m ∈ a.nodesBehind n, m < a.size := by
    rw [nodesBehind, nodesBehind, hparent]
    cases hp : a.parent? n with
    | none => exact ⟨rfl, fun m hm => absurd hm List.not_mem_nil⟩
    | some p =>
      have hlt := lt_size_of_parent? hp
      dsimp only
      rw [h.node_eq p hlt]
      refine ⟨rfl, fun m hm => ?_⟩
      have hheld := (List.dropWhile_sublist _).mem (List.mem_of_mem_drop hm)
      exact Nat.lt_trans (a.lt_of_mem_held hheld) hlt
  obtain ⟨heq, hinside⟩ := hbehind
  refine ⟨congrArg (List.map Slot.node) heq, fun m hm => hinside m ?_⟩
  rwa [tree, Slot.nodesOfAll_map_node] at hm

/-- Without a further node that holds an earlier one, the trees agree along every combinator. -/
theorem Extends.agreeAlong (h : a.Extends b further) (hown : a.ownsLiterals = true)
    (happart : ∀ node ∈ further, ∀ n ∈ node.held, a.size ≤ n) (combinator : Combinator) :
    a.tree.AgreeAlong b.tree (· < a.size) combinator := by
  refine (h.agreeOn hown).agreeAlong_of_siblings (fun n hn => h.siblings_eq ?_) combinator
  refine h.parent?_eq n fun node hnode hheld => ?_
  exact absurd hn (Nat.not_lt_of_le (happart node hnode n hheld))

/-! ### Searches -/

/-- **Growing an arena does not disturb what is there.** A node keeps its kind, source, literal,
children and accessors when further nodes are finished, and it keeps its parent unless one of them
holds it. From every node or slot of the arena, every rule set and every query without a step to
siblings has the same result as before, be it a list or a failure, whatever the options. So has
every other query, if no further node holds an earlier one. -/
theorem search_eq_of_grown {a b : Arena} {further : List ArenaNode}
    (hgrown : further.foldlM add? a = some b) (hown : a.ownsLiterals = true) :
    (∀ n, n < a.size →
      b.tree.kind n = a.tree.kind n ∧ b.tree.source n = a.tree.source n ∧
      b.tree.literal n = a.tree.literal n ∧ b.tree.children n = a.tree.children n ∧
      (∀ name, b.tree.accessor n name = a.tree.accessor n name) ∧
      (b.parent? n ≠ a.parent? n → ∃ node ∈ further, n ∈ node.held) ∧
      ∀ ruleSet : RuleSet, ruleSet.holds b.tree n = ruleSet.holds a.tree n) ∧
    ∀ (options : Options) (slot : Slot Nat), slot.IsInside (· < a.size) →
      (∀ ruleSet : RuleSet,
        ruleSet.search b.tree options slot = ruleSet.search a.tree options slot) ∧
      (∀ query : Query, query.avoidsSiblings = true →
        query.search b.tree options slot = query.search a.tree options slot) ∧
      ((∀ node ∈ further, ∀ n ∈ node.held, a.size ≤ n) → ∀ query : Query,
        query.search b.tree options slot = query.search a.tree options slot) := by
  have hextends := extends_of_foldlM hgrown
  have hagree := hextends.agreeOn hown
  refine ⟨fun n hn => ?_, fun options slot hslot => ⟨fun ruleSet => ?_, fun query havoids => ?_,
    fun happart query => ?_⟩⟩
  · refine ⟨(hagree.kind n hn).symm, (hagree.source n hn).symm, (hagree.literal n hn).symm,
      (hagree.children n hn).symm, fun name => (congrFun (hagree.accessor n hn) name).symm, ?_,
      fun ruleSet => (ruleSet.holds_eq_of_agreeOn hagree hn).symm⟩
    intro hparent
    by_contra hnone
    refine hparent (hextends.parent?_eq n fun node hnode hheld => ?_)
    exact hnone ⟨node, hnode, hheld⟩
  · exact (ruleSet.search_eq_of_agreeOn hagree options hslot).symm
  · have halong : ∀ combinator, decide (combinator = Combinator.child) = true →
        a.tree.AgreeAlong b.tree (· < a.size) combinator := by
      intro combinator hchild
      obtain rfl := of_decide_eq_true hchild
      exact hagree.agreeAlong_child
    exact (query.search_eq_of_agreeOn hagree halong havoids options hslot).symm
  · have hmoves : query.movesAlong (fun _ => true) = true := query.movesAlong_of_forall fun _ => rfl
    exact (query.search_eq_of_agreeOn hagree
      (fun combinator _ => hextends.agreeAlong hown happart combinator) hmoves options hslot).symm

/-- An array literal of two integers. -/
def arrayOfTwo : Arena where
  nodes := #[{ kind := "int", source := "1", literal := some (.integer 1) },
    { kind := "int", source := "2", literal := some (.integer 2) },
    { kind := "array", source := "[1, 2]", literal := some (.list [.node 0, .node 1]),
      entries := [⟨some "elements", .list [.node 0, .node 1]⟩] }]
  held_lt := by decide

/-- A node that holds the integers the other way round and stands for a node not finished yet. -/
def swap : ArenaNode :=
  { kind := "swap", source := "2, 1", literal := some (.node 4),
    entries := [⟨none, .node 1⟩, ⟨none, .node 0⟩] }

/-- A node that holds nothing. -/
def three : ArenaNode := { kind := "int", source := "3" }

/-- The array literal and the node that holds its integers. -/
def swapped : Arena := (arrayOfTwo.add? swap).get rfl

/-- The array literal and the node that holds nothing. -/
def lengthened : Arena := (arrayOfTwo.add? three).get rfl

/-- The children of an array with an element that is written `2`. -/
def elementsQuery : Query :=
  [.link { kindTest := some ⟨"array", [⟨⟨[.name "elements"]⟩, .includes, .identifier "2"⟩]⟩ }
    (.last { combinator := some .child, next := some { kindTest := some ⟨"int", []⟩ } })]

/-- The sibling behind a node. -/
def siblingQuery : Query :=
  [.last { combinator := some .nextSibling, next := some { kindTest := some ⟨"int", []⟩ } }]

/-- The elements of the array stay what they are, while the sibling of the first one is lost to the
node that swaps them. A node that holds neither leaves it. -/
theorem search_eq_of_grown_arrayOfTwo :
    [swap].foldlM add? arrayOfTwo = some swapped ∧
      [three].foldlM add? arrayOfTwo = some lengthened ∧
      arrayOfTwo.ownsLiterals = true ∧ elementsQuery.avoidsSiblings = true ∧
      swapped.parent? 0 ≠ arrayOfTwo.parent? 0 ∧ (∃ node ∈ [swap], 0 ∈ node.held) ∧
      elementsQuery.search swapped.tree {} (.node 2) = .ok [0, 1] ∧
      siblingQuery.search arrayOfTwo.tree {} (.node 0) = .ok [1] ∧
      siblingQuery.search swapped.tree {} (.node 0) = .ok [] ∧
      siblingQuery.search lengthened.tree {} (.node 0) = .ok [1] := by
  have hswapped : [swap].foldlM add? arrayOfTwo = some swapped := rfl
  have hlengthened : [three].foldlM add? arrayOfTwo = some lengthened := rfl
  have hown : arrayOfTwo.ownsLiterals = true := by decide
  have havoids : elementsQuery.avoidsSiblings = true := rfl
  have hparent : swapped.parent? 0 ≠ arrayOfTwo.parent? 0 := by decide
  have hinside : ∀ n, n < 3 → (Slot.node n).IsInside (· < arrayOfTwo.size) :=
    fun n hn => isInside_node.mpr hn
  have helements : elementsQuery.search arrayOfTwo.tree {} (.node 2) = .ok [0, 1] := by cbv
  have hsibling : siblingQuery.search arrayOfTwo.tree {} (.node 0) = .ok [1] := by cbv
  have hlost : siblingQuery.search swapped.tree {} (.node 0) = .ok [] := by cbv
  obtain ⟨hnodes, hsearches⟩ := search_eq_of_grown hswapped hown
  obtain ⟨-, hqueries, -⟩ := hsearches {} (.node 2) (hinside 2 (by decide))
  obtain ⟨-, -, -, -, -, hheld, -⟩ := hnodes 0 (by decide)
  obtain ⟨-, -, hapart⟩ :=
    (search_eq_of_grown hlengthened hown).2 {} (.node 0) (hinside 0 (by decide))
  have hnothing : ∀ node ∈ [three], ∀ n ∈ node.held, arrayOfTwo.size ≤ n := by decide
  exact ⟨hswapped, hlengthened, hown, havoids, hparent, hheld hparent,
    (hqueries _ havoids).trans helements, hsibling, hlost, (hapart hnothing _).trans hsibling⟩

end Arena

end TreeQuery
