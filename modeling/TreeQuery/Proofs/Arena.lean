import Mathlib.Data.List.Find
import Mathlib.Data.List.Nodup
import Mathlib.Logic.Relation
import TreeQuery.Arena
import TreeQuery.Query.Search
import TreeQuery.Tree.Search

/-!
# Parents, walks and siblings in an arena

An arena has four views of one shape: the parent of a node, what a node holds, the walk through the
descendants, and the siblings behind a node. They need not agree, since a node may be held in
several places while it has one parent. **Where every node is held once at most, they do.** Each
node that is finished becomes the parent of what it holds and changes no other parent, so that this
is kept while an arena is built.

## Main definitions and results

* `Arena.IsForest` — parents and what is held agree, and no node is held twice by another one.
* `Arena.Reaches` — the parents of a node lead to another node.
* `Arena.IsPreorder` — a list of nodes is in the order of a walk.
* `Arena.parent?_add?`: the parents behind the finishing of a node.
* `Arena.views_agree`: **parents, walks and siblings agree** where every node is held once at most.
-/

namespace TreeQuery

/-! ### Walks -/

namespace Tree

variable {ν : Type}

/-- **A descendant is followed by its own descendants**, before any other node. -/
theorem exists_descendants_eq (t : Tree ν) {r c : ν} (h : c ∈ t.descendants r) :
    ∃ before after, t.descendants r = before ++ c :: (t.descendants c ++ after) := by
  induction hr : t.height r using Nat.strongRecOn generalizing r with
  | ind height ih =>
    subst hr
    rw [descendants_eq] at h
    obtain ⟨m, hm, hc⟩ := List.mem_flatMap.mp h
    obtain ⟨front, back, hchildren⟩ := List.append_of_mem hm
    rw [descendants_eq, hchildren, List.flatMap_append, List.flatMap_cons]
    rcases List.mem_cons.mp hc with rfl | hc
    · exact ⟨_, _, rfl⟩
    · obtain ⟨before, after, hbelow⟩ := ih _ (t.height_lt_of_mem_childNodes hm) hc rfl
      rw [hbelow]
      refine ⟨front.flatMap (fun m => m :: t.descendants m) ++ m :: before,
        after ++ back.flatMap fun m => m :: t.descendants m, ?_⟩
      simp

/-- A walk that records its visits visits the descendants in order. -/
theorem walk_record (t : Tree ν) (r : ν) :
    (t.walk (fun seen n => .ok (seen ++ [n])) r [] : Except Empty (List ν)) =
      .ok (t.descendants r) := by
  have hrecord : ∀ ns seen : List ν,
      (ns.foldlM (fun seen n => .ok (seen ++ [n])) seen : Except Empty (List ν)) =
        .ok (seen ++ ns) := by
    intro ns
    induction ns with
    | nil =>
      intro seen
      rw [List.append_nil]
      rfl
    | cons n ns ih =>
      intro seen
      rw [List.foldlM_cons]
      exact (ih (seen ++ [n])).trans (by simp)
  rw [walk_eq_foldlM, hrecord, List.nil_append]

end Tree

namespace Arena

variable {a b : Arena} {node : ArenaNode}

/-! ### Finishing a node -/

/-- A node is added behind all others, and nothing else is. -/
theorem size_add? (h : a.add? node = some b) : b.size = a.size + 1 := by
  unfold add? at h
  split at h
  · cases h
    exact Array.size_push node
  · cases h

/-- Adding a node leaves all others as they are. -/
theorem node_add? (h : a.add? node = some b) (n : Nat) :
    b.node n = if n = a.size then node else a.node n := by
  unfold add? at h
  split at h
  · cases h
    unfold Arena.node
    dsimp only
    rw [Array.getElem?_push]
    split <;> simp_all [size]
  · cases h

/-- Beyond the last node there is none that holds anything. -/
theorem node_of_size_le {n : Nat} (h : a.size ≤ n) : (a.node n).held = [] := by
  rw [Arena.node, Array.getElem?_eq_none h]
  rfl

/-- **A node that is finished becomes the parent of what it holds.** All other parents stay. -/
theorem parent?_add? (h : a.add? node = some b) (c : Nat) :
    b.parent? c = if c ∈ node.held then some a.size else a.parent? c := by
  have hothers : ∀ p ∈ (List.range a.size).reverse,
      (b.node p).held.contains c = (a.node p).held.contains c := by
    intro p hp
    have hlt : p < a.size := by simpa using hp
    rw [node_add? h, if_neg (Nat.ne_of_lt hlt)]
  rw [parent?, size_add? h, List.range_succ, List.reverse_concat, List.find?_cons, node_add? h,
    if_pos rfl, List.find?_congr hothers]
  by_cases hc : c ∈ node.held
  · rw [if_pos hc, List.contains_iff_mem.mpr hc]
  · rw [if_neg hc, Bool.eq_false_iff.mpr (mt List.contains_iff_mem.mp hc)]
    rfl

/-- A parent holds its children. -/
theorem mem_held_of_parent? {c p : Nat} (h : a.parent? c = some p) : c ∈ (a.node p).held :=
  List.contains_iff_mem.mp (List.find?_some (p := fun p => (a.node p).held.contains c) h)

/-- Parents are finished after what they hold. -/
theorem lt_of_parent? {c p : Nat} (h : a.parent? c = some p) : c < p :=
  a.lt_of_mem_held (mem_held_of_parent? h)

/-! ### Forests -/

/-- Every node that is held has its holder for a parent, and is held by it once. -/
structure IsForest (a : Arena) : Prop where
  /-- A node is held by its parent and by no other node. -/
  parent?_iff : ∀ c p, a.parent? c = some p ↔ c ∈ (a.node p).held
  /-- No node is held twice. -/
  nodup_held : ∀ p, (a.node p).held.Nodup

/-- An arena without nodes is a forest. -/
theorem isForest_of_size_eq_zero (h : a.size = 0) : a.IsForest where
  parent?_iff c p := by
    rw [node_of_size_le (h ▸ Nat.zero_le p), parent?, h]
    exact iff_of_false (Option.some_ne_none p).symm List.not_mem_nil
  nodup_held p := by
    rw [node_of_size_le (h ▸ Nat.zero_le p)]
    exact List.nodup_nil

/-- **A forest remains one** when a node is finished that holds other nodes than those before, each
of them once. -/
theorem IsForest.add? (hforest : a.IsForest) (h : a.add? node = some b) (hnodup : node.held.Nodup)
    (hnew : ∀ c ∈ node.held, ∀ p, c ∉ (a.node p).held) : b.IsForest where
  parent?_iff c p := by
    rw [parent?_add? h, node_add? h]
    by_cases hp : p = a.size
    · subst hp
      rw [if_pos rfl]
      by_cases hc : c ∈ node.held
      · rw [if_pos hc]
        exact iff_of_true rfl hc
      · rw [if_neg hc, hforest.parent?_iff, node_of_size_le (Nat.le_refl _)]
        exact iff_of_false List.not_mem_nil hc
    · rw [if_neg hp]
      by_cases hc : c ∈ node.held
      · rw [if_pos hc]
        exact iff_of_false (fun heq => hp (Option.some.inj heq).symm) (hnew c hc p)
      · rw [if_neg hc]
        exact hforest.parent?_iff c p
  nodup_held p := by
    rw [node_add? h]
    split
    · exact hnodup
    · exact hforest.nodup_held p

/-- **An arena that is built with every node held once at most is a forest.** -/
theorem isForest_of_foldlM {nodes : List ArenaNode} (hforest : a.IsForest)
    (hbuilt : nodes.foldlM Arena.add? a = some b) (honce : (nodes.flatMap ArenaNode.held).Nodup)
    (hnew : ∀ c ∈ nodes.flatMap ArenaNode.held, ∀ p, c ∉ (a.node p).held) : b.IsForest := by
  induction nodes generalizing a with
  | nil =>
    obtain rfl := Option.some.inj hbuilt
    exact hforest
  | cons node nodes ih =>
    rw [List.foldlM_cons] at hbuilt
    obtain ⟨next, hnext, hrest⟩ := Option.bind_eq_some_iff.mp hbuilt
    rw [List.flatMap_cons] at honce hnew
    obtain ⟨hnode, hnodes, hapart⟩ := List.nodup_append.mp honce
    have hstep : next.IsForest :=
      hforest.add? hnext hnode fun c hc => hnew c (List.mem_append_left _ hc)
    refine ih hstep hrest hnodes fun c hc p => ?_
    rw [node_add? hnext]
    split
    · exact fun hheld => hapart c hheld c hc rfl
    · exact hnew c (List.mem_append_right _ hc) p

/-! ### Walks through a forest -/

/-- The parents of `c`, one after the other, lead to `r`. -/
def Reaches (a : Arena) : Nat → Nat → Prop :=
  Relation.ReflTransGen fun c p => a.parent? c = some p

/-- The parents of `c` lead to `r` in one step at least. -/
def IsBelow (a : Arena) : Nat → Nat → Prop :=
  Relation.TransGen fun c p => a.parent? c = some p

/-- A node is added before all that it lies below. -/
theorem IsBelow.lt {c r : Nat} (h : a.IsBelow c r) : c < r := by
  induction h with
  | single h => exact lt_of_parent? h
  | tail _ h ih => exact Nat.lt_trans ih (lt_of_parent? h)

/-- A node is below those that its parents lead to, itself apart. -/
theorem isBelow_iff {c r : Nat} : a.IsBelow c r ↔ c ≠ r ∧ a.Reaches c r := by
  constructor
  · intro h
    exact ⟨Nat.ne_of_lt h.lt, Relation.TransGen.to_reflTransGen h⟩
  · rintro ⟨hne, h⟩
    rcases Relation.reflTransGen_iff_eq_or_transGen.mp h with rfl | h
    · exact absurd rfl hne
    · exact h

/-- **The descendants of a node are the nodes below it.** -/
theorem IsForest.mem_descendants_iff (hforest : a.IsForest) {c r : Nat} :
    c ∈ a.tree.descendants r ↔ a.IsBelow c r := by
  induction r using Nat.strongRecOn with
  | ind r ih =>
    rw [Tree.descendants_eq, List.mem_flatMap, IsBelow, Relation.TransGen.tail'_iff]
    refine exists_congr fun m => ?_
    rw [childNodes_tree, ← hforest.parent?_iff, and_comm]
    refine and_congr_left fun hm => ?_
    rw [List.mem_cons, ih m (lt_of_parent? hm), Relation.reflTransGen_iff_eq_or_transGen]
    exact or_congr eq_comm Iff.rfl

/-- Two nodes of one parent have no node below both of them. -/
theorem eq_of_reaches_both {c m m' r : Nat} (hm : a.parent? m = some r)
    (hm' : a.parent? m' = some r) (h : a.Reaches c m) (h' : a.Reaches c m') : m = m' := by
  -- a node has one parent, so that one of the two leads to the other, past their parent
  have hunique : Relator.RightUnique fun c p => a.parent? c = some p :=
    fun c p p' hp hp' => Option.some.inj (hp.symm.trans hp')
  have hapart : ∀ {m m' : Nat}, a.parent? m = some r → a.parent? m' = some r → a.Reaches m m' →
      m = m' := by
    intro m m' hm hm' hreaches
    by_contra hne
    rcases Relation.ReflTransGen.cases_head hreaches with heq | ⟨p, hp, hrest⟩
    · exact hne heq
    · obtain rfl : p = r := hunique hp hm
      rcases Relation.reflTransGen_iff_eq_or_transGen.mp hrest with rfl | hbelow
      · exact absurd (lt_of_parent? hm') (Nat.lt_irrefl _)
      · exact absurd (Nat.lt_trans (IsBelow.lt hbelow) (lt_of_parent? hm')) (Nat.lt_irrefl _)
  rcases Relation.ReflTransGen.total_of_right_unique hunique h h' with hreaches | hreaches
  · exact hapart hm hm' hreaches
  · exact (hapart hm' hm hreaches).symm

/-- **No node is visited twice.** -/
theorem IsForest.nodup_descendants (hforest : a.IsForest) (r : Nat) :
    (a.tree.descendants r).Nodup := by
  induction r using Nat.strongRecOn with
  | ind r ih =>
    rw [Tree.descendants_eq, List.nodup_flatMap, childNodes_tree]
    have hparent : ∀ m ∈ (a.node r).held, a.parent? m = some r :=
      fun m hm => (hforest.parent?_iff m r).mpr hm
    have hreaches : ∀ m c, c ∈ m :: a.tree.descendants m → a.Reaches c m := by
      intro m c hc
      rcases List.mem_cons.mp hc with rfl | hc
      · exact .refl
      · exact Relation.TransGen.to_reflTransGen (hforest.mem_descendants_iff.mp hc)
    constructor
    · intro m hm
      refine List.nodup_cons.mpr ⟨fun hself => ?_, ih m (lt_of_parent? (hparent m hm))⟩
      exact absurd (hforest.mem_descendants_iff.mp hself).lt (Nat.lt_irrefl m)
    · refine (hforest.nodup_held r).pairwise_of_forall_ne fun m hm m' hm' hne c hc hc' => hne ?_
      exact eq_of_reaches_both (hparent m hm) (hparent m' hm') (hreaches m c hc) (hreaches m' c hc')

/-- A list of nodes is in the order of a walk below `r`. -/
structure IsPreorder (a : Arena) (r : Nat) (visited : List Nat) : Prop where
  /-- No node is visited twice. -/
  nodup : visited.Nodup
  /-- The nodes visited are those whose parents lead to `r`, except `r`. -/
  mem_iff : ∀ c, c ∈ visited ↔ c ≠ r ∧ a.Reaches c r
  /-- Every node comes after its parent. -/
  parent_mem : ∀ before c after, visited = before ++ c :: after →
    ∀ p, a.parent? c = some p → p = r ∨ p ∈ before
  /-- Directly behind a node come the nodes whose parents lead to it, in a row. -/
  contiguous : ∀ c ∈ visited, ∃ before below after, visited = before ++ c :: (below ++ after) ∧
    ∀ d, d ∈ below ↔ d ≠ c ∧ a.Reaches d c

/-- **The descendants of a node in a forest are in the order of a walk.** -/
theorem IsForest.isPreorder_descendants (hforest : a.IsForest) (r : Nat) :
    a.IsPreorder r (a.tree.descendants r) where
  nodup := hforest.nodup_descendants r
  mem_iff c := hforest.mem_descendants_iff.trans isBelow_iff
  parent_mem := by
    intro before c after hvisited p hp
    have hc : a.IsBelow c r := hforest.mem_descendants_iff.mp (by simp [hvisited])
    rcases Relation.TransGen.head'_iff.mp hc with ⟨q, hq, hreaches⟩
    obtain rfl : q = p := Option.some.inj (hq.symm.trans hp)
    rcases Relation.reflTransGen_iff_eq_or_transGen.mp hreaches with rfl | hbelow
    · exact .inl rfl
    · -- the parent is visited, and its descendants, of which `c` is one, come behind it
      have hmem := hforest.mem_descendants_iff.mpr hbelow
      obtain ⟨front, back, hsplit⟩ := a.tree.exists_descendants_eq hmem
      have hcmem : c ∈ a.tree.descendants q := hforest.mem_descendants_iff.mpr (.single hp)
      obtain ⟨left, right, hcsplit⟩ := List.append_of_mem hcmem
      have heq : before ++ c :: after = (front ++ q :: left) ++ c :: (right ++ back) := by
        rw [← hvisited, hsplit, hcsplit]
        simp
      have hnodup := hforest.nodup_descendants r
      rw [hvisited, List.nodup_middle, List.nodup_cons, List.mem_append, not_or] at hnodup
      obtain ⟨⟨hbefore, hafter⟩, -⟩ := hnodup
      rw [((List.append_cons_inj_of_notMem hbefore hafter).mp heq).1]
      exact .inr (List.mem_append_right _ List.mem_cons_self)
  contiguous c hc := by
    obtain ⟨before, after, heq⟩ := a.tree.exists_descendants_eq hc
    exact ⟨before, _, after, heq, fun d => hforest.mem_descendants_iff.trans isBelow_iff⟩

/-! ### Siblings -/

/-- **What is behind a node among the children of its parent are its siblings.** -/
theorem IsForest.exists_held_eq (hforest : a.IsForest) {c p : Nat} (h : a.parent? c = some p) :
    ∃ before, (a.node p).held = before ++ c :: a.nodesBehind c ∧ c ∉ before ∧
      c ∉ a.nodesBehind c := by
  obtain ⟨before, behind, hheld⟩ := List.append_of_mem (mem_held_of_parent? h)
  have hnodup := hforest.nodup_held p
  rw [hheld, List.nodup_middle, List.nodup_cons, List.mem_append, not_or] at hnodup
  obtain ⟨⟨hbefore, hbehind⟩, -⟩ := hnodup
  have hdrop : a.nodesBehind c = behind := by
    have hskipped : ∀ d ∈ before, decide (d ≠ c) = true := by
      intro d hd
      exact decide_eq_true (fun heq => hbefore (heq ▸ hd))
    rw [nodesBehind, h]
    dsimp only
    rw [hheld, List.dropWhile_append_of_pos hskipped, List.dropWhile_cons, if_neg (by simp)]
    rfl
  rw [hdrop]
  exact ⟨before, hheld, hbefore, hbehind⟩

/-! ### All views -/

/-- **Where every node is held once at most, the views of an arena agree**, in whatever order it was
built: the parent of a node is the node that holds it, finished later; a walk from any node ends and
visits in order the nodes whose parents lead to it; and the siblings of a node are what comes behind
it among the children of its parent. -/
theorem views_agree {transparentKinds : List String} {nodes : List ArenaNode} {a : Arena}
    (hbuilt : ofNodes? transparentKinds nodes = some a)
    (honce : (nodes.flatMap ArenaNode.held).Nodup) :
    (∀ c p, (a.parent? c = some p ↔ c ∈ (a.node p).held) ∧ (a.parent? c = some p → c < p)) ∧
    (∀ r, ∃ visited,
      (a.tree.walk (fun seen n => .ok (seen ++ [n])) r [] : Except Empty (List Nat)) =
        .ok visited ∧ a.IsPreorder r visited) ∧
    ∀ c p, a.parent? c = some p → ∃ before behind,
      a.tree.childNodes p = before ++ c :: behind ∧ c ∉ before ∧ c ∉ behind ∧
      a.tree.siblings c = behind.map Slot.node ∧
      a.tree.reached .laterSibling (.node c) = behind ∧
      a.tree.reached .nextSibling (.node c) = behind.take 1 := by
  have hforest : a.IsForest := by
    refine isForest_of_foldlM (isForest_of_size_eq_zero rfl) hbuilt honce fun c _ p => ?_
    rw [node_of_size_le (Nat.zero_le p)]
    exact List.not_mem_nil
  refine ⟨fun c p => ⟨hforest.parent?_iff c p, lt_of_parent?⟩, fun r => ?_, fun c p hp => ?_⟩
  · exact ⟨_, a.tree.walk_record r, hforest.isPreorder_descendants r⟩
  · obtain ⟨before, hheld, hbefore, hbehind⟩ := hforest.exists_held_eq hp
    have hsiblings : Slot.nodesOfAll (a.tree.siblings c) = a.nodesBehind c :=
      Slot.nodesOfAll_map_node _
    refine ⟨before, a.nodesBehind c, ?_, hbefore, hbehind, rfl, hsiblings, ?_⟩
    · rw [childNodes_tree, hheld]
    · rw [Tree.reached, hsiblings]

/-- A block with a call in it, whose two arguments stand in one list, and a further statement. -/
def blockNodes : List ArenaNode :=
  [{ kind := "int", source := "1" }, { kind := "int", source := "2" },
    { kind := "call", source := "f(1, 2)",
      entries := [⟨some "name", .text "f"⟩, ⟨some "args", .list [.node 0, .list [.node 1]]⟩] },
    { kind := "break", source := "break" },
    { kind := "block", source := "f(1, 2); break",
      entries := [⟨none, .node 2⟩, ⟨none, .absent⟩, ⟨none, .node 3⟩] }]

/-- The arena of these nodes. -/
def block : Arena := (ofNodes? [] blockNodes).get rfl

/-- An argument in a nested list has the call for its parent, the walk through the block meets it
before the second statement, and that statement is what stands behind the call. -/
theorem views_agree_block :
    ofNodes? [] blockNodes = some block ∧ (blockNodes.flatMap ArenaNode.held).Nodup ∧
      block.parent? 1 = some 2 ∧ 1 < 2 ∧
      block.tree.descendants 4 = [2, 0, 1, 3] ∧ block.IsPreorder 4 [2, 0, 1, 3] ∧
      block.parent? 2 = some 4 ∧ ∃ before behind,
        block.tree.childNodes 4 = before ++ 2 :: behind ∧ 2 ∉ before ∧ 2 ∉ behind ∧
        block.tree.reached .laterSibling (.node 2) = behind := by
  have hbuilt : ofNodes? [] blockNodes = some block := rfl
  have honce : (blockNodes.flatMap ArenaNode.held).Nodup := by decide
  have hcall : block.parent? 1 = some 2 := rfl
  have hblock : block.parent? 2 = some 4 := rfl
  have hdescendants : block.tree.descendants 4 = [2, 0, 1, 3] := by cbv
  obtain ⟨hparents, hwalks, hsiblings⟩ := views_agree hbuilt honce
  obtain ⟨visited, hvisited, hpreorder⟩ := hwalks 4
  obtain rfl : block.tree.descendants 4 = visited :=
    Except.ok.inj ((block.tree.walk_record 4).symm.trans hvisited)
  obtain ⟨before, behind, hchildren, hbefore, hbehind, -, hlater, -⟩ := hsiblings 2 4 hblock
  exact ⟨hbuilt, honce, hcall, (hparents 1 2).2 hcall, hdescendants, hdescendants ▸ hpreorder,
    hblock, before, behind, hchildren, hbefore, hbehind, hlater⟩

end Arena

end TreeQuery
