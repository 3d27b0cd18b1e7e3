import TreeQuery.Tree.Basic

/-!
# What reduction leads to

A slot stands for a value behind links: from a node to its literal, and from a list to each of its
elements. Its full reduction follows every link to the end. Links may form cycles, and then there is
no full reduction; reduction that follows at most `Tree.reductionDepth` links in a row **comes to an
end from every slot**, and leaves no node with a literal but those that lie just that many links
deep.

So the limit is felt only behind as many links. **Where no path of links is longer, reduction is
full reduction**: its result holds no node with a literal, and reducing it again changes nothing.

## Main definitions and results

* `Tree.Link`, `Tree.LeadsTo` — links, and paths of a number of them.
* `Tree.ReducesTo` — full reduction.
* `Tree.EndsIn` — reduction that counts the links it has followed and stops at the limit.
* `Tree.endsIn_iff`: from every slot it ends, with one result.
* `Tree.reducesTo_iff`: within the limit it is full reduction.
* `Tree.reduce_full`: the two together, with what is left in the result.
-/

namespace TreeQuery.Tree

variable {ν : Type} {t : Tree ν}

/-! ### Links -/

/-- What reduction follows. -/
inductive Link (t : Tree ν) : Slot ν → Slot ν → Prop where
  /-- From a node to its literal. -/
  | literal {n : ν} {value : Slot ν} : t.literal n = some value → Link t (.node n) value
  /-- From a list to one of its elements. -/
  | element {items : List (Slot ν)} {item : Slot ν} : item ∈ items → Link t (.list items) item

/-- A path of a number of links. -/
inductive LeadsTo (t : Tree ν) : Nat → Slot ν → Slot ν → Prop where
  /-- Without a link. -/
  | refl (slot : Slot ν) : LeadsTo t 0 slot slot
  /-- With one more link in front. -/
  | step {links : Nat} {slot next target : Slot ν} :
      t.Link slot next → LeadsTo t links next target → LeadsTo t (links + 1) slot target

/-- Every path from the slot has at most `bound` links. -/
def LinksWithin (t : Tree ν) (bound : Nat) (slot : Slot ν) : Prop :=
  ∀ links target, t.LeadsTo links slot target → links ≤ bound

/-- A path can be lengthened at its end. -/
theorem LeadsTo.trans_link {links : Nat} {slot target beyond : Slot ν}
    (h : t.LeadsTo links slot target) (hlink : t.Link target beyond) :
    t.LeadsTo (links + 1) slot beyond := by
  induction h with
  | refl slot => exact .step hlink (.refl beyond)
  | step hfirst _ ih => exact .step hfirst (ih hlink)

/-- Behind a link one link less is left. -/
theorem LinksWithin.of_link {bound : Nat} {slot next : Slot ν} (h : t.LinksWithin (bound + 1) slot)
    (hlink : t.Link slot next) : t.LinksWithin bound next := by
  intro links target hpath
  exact Nat.le_of_succ_le_succ (h (links + 1) target (.step hlink hpath))

/-- From where no link is left none leads on. -/
theorem LinksWithin.not_link {slot next : Slot ν} (h : t.LinksWithin 0 slot) : ¬ t.Link slot next :=
  fun hlink => Nat.not_succ_le_zero 0 (h 1 next (.step hlink (.refl next)))

/-! ### Full reduction -/

/-- **Full reduction**: a node with a literal is replaced by what that reduces to, a list by the
list of what its elements reduce to, and all else stays as it is. -/
inductive ReducesTo (t : Tree ν) : Slot ν → Slot ν → Prop where
  /-- A node with a literal. -/
  | literal {n : ν} {value result : Slot ν} :
      t.literal n = some value → ReducesTo t value result → ReducesTo t (.node n) result
  /-- A node without a literal. -/
  | node {n : ν} : t.literal n = none → ReducesTo t (.node n) (.node n)
  /-- A list. -/
  | list {items : List (Slot ν)} {reduced : Slot ν → Slot ν} :
      (∀ item ∈ items, ReducesTo t item (reduced item)) →
      ReducesTo t (.list items) (.list (items.map reduced))
  /-- What is neither a node nor a list. -/
  | scalar {slot : Slot ν} : slot.node? = none → slot.items? = none → ReducesTo t slot slot

/-- Reduction behind `depth` links that does not go on where the limit is reached. -/
inductive EndsIn (t : Tree ν) : (depth : Nat) → Slot ν → Slot ν → Prop where
  /-- At the limit a slot is left as it is. -/
  | limit {depth : Nat} {slot : Slot ν} : reductionDepth ≤ depth → EndsIn t depth slot slot
  /-- A node with a literal. -/
  | literal {depth : Nat} {n : ν} {value result : Slot ν} : depth < reductionDepth →
      t.literal n = some value → EndsIn t (depth + 1) value result → EndsIn t depth (.node n) result
  /-- A node without a literal. -/
  | node {depth : Nat} {n : ν} : depth < reductionDepth → t.literal n = none →
      EndsIn t depth (.node n) (.node n)
  /-- A list. -/
  | list {depth : Nat} {items : List (Slot ν)} {reduced : Slot ν → Slot ν} :
    depth < reductionDepth →
      (∀ item ∈ items, EndsIn t (depth + 1) item (reduced item)) →
      EndsIn t depth (.list items) (.list (items.map reduced))
  /-- What is neither a node nor a list. -/
  | scalar {depth : Nat} {slot : Slot ν} : depth < reductionDepth → slot.node? = none →
      slot.items? = none → EndsIn t depth slot slot

/-! ### Reduction within a number of links -/

/-- A node with a literal is reduced to what that reduces to along one link less. -/
theorem reduceWithin_node_of_literal {n : ν} {value : Slot ν} (h : t.literal n = some value)
    (bound : Nat) : t.reduceWithin (bound + 1) (.node n) = t.reduceWithin bound value := by
  rw [reduceWithin, h]

/-- A node without a literal stays as it is. -/
theorem reduceWithin_node {n : ν} (h : t.literal n = none) (bound : Nat) :
    t.reduceWithin bound (.node n) = .node n := by
  cases bound with
  | zero => rfl
  | succ bound => rw [reduceWithin, h]

/-- What is neither a node nor a list stays as it is. -/
theorem reduceWithin_scalar {slot : Slot ν} (hnode : slot.node? = none)
    (hitems : slot.items? = none) (bound : Nat) : t.reduceWithin bound slot = slot := by
  cases bound with
  | zero => rfl
  | succ bound =>
    cases slot with
    | node n => cases hnode
    | list items => cases hitems
    | _ => rfl

/-- **Reduction comes to an end behind any number of links**, with what the links that are left lead
to. -/
theorem endsIn_reduceWithin {bound depth : Nat} (h : depth + bound = reductionDepth)
    (slot : Slot ν) :
    t.EndsIn depth slot (t.reduceWithin bound slot) := by
  induction bound generalizing depth slot with
  | zero => exact .limit (by omega)
  | succ bound ih =>
    have hdepth : depth < reductionDepth := by omega
    have hbehind : depth + 1 + bound = reductionDepth := by omega
    cases slot with
    | node n =>
      cases hliteral : t.literal n with
      | none =>
        rw [reduceWithin_node hliteral]
        exact .node hdepth hliteral
      | some value =>
        rw [reduceWithin_node_of_literal hliteral]
        exact .literal hdepth hliteral (ih hbehind value)
    | list items => exact .list hdepth fun item _ => ih hbehind item
    | _ => exact .scalar hdepth rfl rfl

/-- **Following the literals of a slot ends with one result**, the one that is computed. -/
theorem EndsIn.eq_reduceWithin {bound depth : Nat} {slot result : Slot ν}
    (h : t.EndsIn depth slot result) (hbound : depth + bound = reductionDepth) :
    result = t.reduceWithin bound slot := by
  induction h generalizing bound with
  | limit hdepth =>
    obtain rfl : bound = 0 := by omega
    rfl
  | literal hdepth hliteral _ ih =>
    obtain ⟨bound, rfl⟩ : ∃ b, bound = b + 1 := ⟨bound - 1, by omega⟩
    rw [reduceWithin_node_of_literal hliteral]
    exact ih (by omega)
  | node _ hliteral => exact (reduceWithin_node hliteral bound).symm
  | list hdepth _ ih =>
    obtain ⟨bound, rfl⟩ : ∃ b, bound = b + 1 := ⟨bound - 1, by omega⟩
    rw [reduceWithin]
    exact congrArg Slot.list (List.map_congr_left fun item hitem => ih item hitem (by omega))
  | scalar _ hnode hitems => exact (reduceWithin_scalar hnode hitems bound).symm

/-- Reduction that stops at the limit comes to what a slot stands for, and to nothing else. -/
theorem endsIn_iff {slot result : Slot ν} : t.EndsIn 0 slot result ↔ result = t.reduce slot := by
  have hbound : 0 + reductionDepth = reductionDepth := Nat.zero_add _
  constructor
  · exact fun h => h.eq_reduceWithin hbound
  · rintro rfl
    exact endsIn_reduceWithin hbound slot

/-! ### Within the limit -/

/-- A slot without a link is its own reduction. -/
theorem reducesTo_self {slot : Slot ν} (h : ∀ next, ¬ t.Link slot next) :
    t.ReducesTo slot slot := by
  cases slot with
  | node n =>
    refine .node (Option.eq_none_iff_forall_ne_some.mpr fun value hvalue => ?_)
    exact h value (.literal hvalue)
  | list items =>
    have hnone : ∀ item, item ∉ items := fun item hitem => h item (.element hitem)
    obtain rfl := List.eq_nil_iff_forall_not_mem.mpr hnone
    change t.ReducesTo (.list []) (.list (([] : List (Slot ν)).map id))
    exact .list (List.forall_mem_nil _)
  | _ => exact .scalar rfl rfl

/-- **A reduction that has links left for every path is full reduction.** -/
theorem EndsIn.reducesTo {bound depth : Nat} {slot result : Slot ν} (h : t.EndsIn depth slot result)
    (hbound : depth + bound = reductionDepth) (hlinks : t.LinksWithin bound slot) :
    t.ReducesTo slot result := by
  induction h generalizing bound with
  | limit hdepth =>
    obtain rfl : bound = 0 := by omega
    exact reducesTo_self fun _ => hlinks.not_link
  | literal hdepth hliteral _ ih =>
    obtain ⟨bound, rfl⟩ : ∃ b, bound = b + 1 := ⟨bound - 1, by omega⟩
    exact .literal hliteral (ih (by omega) (hlinks.of_link (.literal hliteral)))
  | node _ hliteral => exact .node hliteral
  | list hdepth _ ih =>
    obtain ⟨bound, rfl⟩ : ∃ b, bound = b + 1 := ⟨bound - 1, by omega⟩
    exact .list fun item hitem => ih item hitem (by omega) (hlinks.of_link (.element hitem))
  | scalar _ hnode hitems => exact .scalar hnode hitems

/-- Full reduction has one result. -/
theorem ReducesTo.unique {slot result result' : Slot ν} (h : t.ReducesTo slot result)
    (h' : t.ReducesTo slot result') : result = result' := by
  induction h generalizing result' with
  | literal hliteral _ ih =>
    cases h' with
    | literal hliteral' hvalue =>
      obtain rfl := Option.some.inj (hliteral.symm.trans hliteral')
      exact ih hvalue
    | node hliteral' => cases hliteral.symm.trans hliteral'
    | scalar hnode => cases hnode
  | node hliteral =>
    cases h' with
    | literal hliteral' => cases hliteral.symm.trans hliteral'
    | node => rfl
    | scalar => rfl
  | list _ ih =>
    cases h' with
    | list hitems' =>
      refine congrArg Slot.list (List.map_congr_left fun item hitem => ?_)
      exact ih item hitem (hitems' item hitem)
    | scalar _ hitems => cases hitems
  | scalar hnode hitems =>
    cases h' with
    | literal => cases hnode
    | list => cases hitems
    | _ => rfl

/-- **Full reduction comes to what a slot stands for** where no path from it is longer than the
limit. -/
theorem reducesTo_iff {slot result : Slot ν} (h : t.LinksWithin reductionDepth slot) :
    t.ReducesTo slot result ↔ result = t.reduce slot := by
  have hfull := (endsIn_iff.mpr rfl).reducesTo (Nat.zero_add _) h
  constructor
  · exact fun hresult => hresult.unique hfull
  · rintro rfl
    exact hfull

/-! ### What is left in a result -/

mutual

/-- The nodes of a slot lie behind links from it. -/
theorem exists_leadsTo_of_mem_nodes (t : Tree ν) {m : ν} : ∀ {slot : Slot ν}, m ∈ slot.nodes →
    ∃ links, t.LeadsTo links slot (.node m)
  | .node n, h => by
    obtain rfl := List.mem_singleton.mp h
    exact ⟨0, .refl _⟩
  | .list items, h => by
    obtain ⟨item, hitem, links, hpath⟩ := exists_leadsTo_of_mem_nodesOfAll t h
    exact ⟨links + 1, .step (.element hitem) hpath⟩

/-- Links lead from one of several slots to each of their nodes. -/
theorem exists_leadsTo_of_mem_nodesOfAll (t : Tree ν) {m : ν} : ∀ {items : List (Slot ν)},
    m ∈ Slot.nodesOfAll items → ∃ item ∈ items, ∃ links, t.LeadsTo links item (.node m)
  | item :: items, h => by
    rcases List.mem_append.mp h with hitem | hitems
    · exact ⟨item, List.mem_cons_self, exists_leadsTo_of_mem_nodes t hitem⟩
    · obtain ⟨other, hother, hpath⟩ := exists_leadsTo_of_mem_nodesOfAll t hitems
      exact ⟨other, List.mem_cons_of_mem item hother, hpath⟩

end

/-- **A node that a reduction leaves with a literal lies as deep as the limit.** -/
theorem EndsIn.exists_leadsTo {depth : Nat} {slot result : Slot ν} (h : t.EndsIn depth slot result)
    {m : ν} (hm : m ∈ result.nodes) (hliteral : t.literal m ≠ none) :
    ∃ links, reductionDepth ≤ depth + links ∧ t.LeadsTo links slot (.node m) := by
  induction h with
  | limit hdepth =>
    obtain ⟨links, hpath⟩ := exists_leadsTo_of_mem_nodes t hm
    exact ⟨links, by omega, hpath⟩
  | literal _ hvalue _ ih =>
    obtain ⟨links, hlinks, hpath⟩ := ih hm
    exact ⟨links + 1, by omega, .step (.literal hvalue) hpath⟩
  | node _ hnone =>
    obtain rfl := List.mem_singleton.mp hm
    exact absurd hnone hliteral
  | @list depth items reduced _ _ ih =>
    obtain ⟨_, hreduced, hm⟩ := Slot.mem_nodes_list.mp hm
    obtain ⟨item, hitem, rfl⟩ := List.mem_map.mp hreduced
    obtain ⟨links, hlinks, hpath⟩ := ih item hitem hm
    exact ⟨links + 1, by omega, .step (.element hitem) hpath⟩
  | @scalar _ slot _ hnode hitems =>
    cases slot with
    | node n => cases hnode
    | list items => cases hitems
    | _ => cases hm

/-- A slot whose nodes have no literals is left as it is. -/
theorem reduceWithin_of_literal_eq_none {bound : Nat} {slot : Slot ν}
    (h : ∀ m ∈ slot.nodes, t.literal m = none) : t.reduceWithin bound slot = slot := by
  induction bound generalizing slot with
  | zero => rfl
  | succ bound ih =>
    cases slot with
    | node n => exact reduceWithin_node (h n (List.mem_singleton_self n)) _
    | list items =>
      rw [reduceWithin]
      have hitems : ∀ item ∈ items, t.reduceWithin bound item = id item := fun item hitem =>
        ih fun m hm => h m (Slot.mem_nodes_list.mpr ⟨item, hitem, hm⟩)
      rw [List.map_congr_left hitems, List.map_id]
    | _ => rfl

/-- Within the limit no node is left with a literal. -/
theorem literal_eq_none_of_mem_nodes_reduce {slot : Slot ν} (h : t.LinksWithin reductionDepth slot)
    {m : ν} (hm : m ∈ (t.reduce slot).nodes) : t.literal m = none := by
  cases hliteral : t.literal m with
  | none => rfl
  | some value =>
    have hsome : t.literal m ≠ none := by simp [hliteral]
    obtain ⟨links, hlinks, hpath⟩ := (endsIn_iff.mpr rfl).exists_leadsTo hm hsome
    have hlonger := h (links + 1) value (hpath.trans_link (.literal hliteral))
    omega

/-! ### The two together -/

/-- **Reduction of any slot comes to an end, with one result**, however its links run; a node that
is left in the result with a literal lies behind at least 64 links. A slot without a link is left as
it is. **If no path has more than 64 links, the result is that of full reduction**: no node in it
has a literal, and reducing it again changes nothing. -/
theorem reduce_full (t : Tree ν) (slot : Slot ν) :
    (∀ result, t.EndsIn 0 slot result ↔ result = t.reduce slot) ∧
    (∀ m ∈ (t.reduce slot).nodes, t.literal m ≠ none →
      ∃ links, 64 ≤ links ∧ t.LeadsTo links slot (.node m)) ∧
    ((∀ next, ¬ t.Link slot next) → t.reduce slot = slot) ∧
    (t.LinksWithin 64 slot →
      (∀ result, t.ReducesTo slot result ↔ result = t.reduce slot) ∧
      (∀ m ∈ (t.reduce slot).nodes, t.literal m = none) ∧
      t.reduce (t.reduce slot) = t.reduce slot) := by
  refine ⟨fun _ => endsIn_iff, fun m hm hliteral => ?_, fun hlink => ?_, fun hlinks => ⟨?_, ?_, ?_⟩⟩
  · obtain ⟨links, hle, hpath⟩ := (endsIn_iff.mpr rfl).exists_leadsTo hm hliteral
    exact ⟨links, by simpa [reductionDepth] using hle, hpath⟩
  · have hwithin : t.LinksWithin reductionDepth slot := by
      intro links target hpath
      cases hpath with
      | refl => exact Nat.zero_le _
      | step hfirst => exact absurd hfirst (hlink _)
    exact ((reducesTo_iff hwithin).mp (reducesTo_self hlink)).symm
  · exact fun _ => reducesTo_iff hlinks
  · exact fun m => literal_eq_none_of_mem_nodes_reduce hlinks
  · exact reduceWithin_of_literal_eq_none fun m => literal_eq_none_of_mem_nodes_reduce hlinks

/-- A tree without children in which every node but the first one stands for the node before it. -/
def countdown : Tree Nat where
  kind _ := "wrapper"
  source _ := ""
  children _ := []
  siblings _ := []
  accessor _ _ := none
  literal
    | 0 => none
    | n + 1 => some (.node n)
  isTransparent _ := false
  height _ := 0
  height_lt _ _ h := nomatch h

/-- No path from a node of the countdown is longer than its number. -/
theorem linksWithin_countdown (n : Nat) : countdown.LinksWithin n (.node n) := by
  induction n with
  | zero =>
    rintro links target (_ | ⟨hlink, -⟩)
    · exact Nat.le_refl 0
    · cases hlink with
      | literal hvalue => cases hvalue
  | succ n ih =>
    rintro links target (_ | ⟨hlink, hpath⟩)
    · exact Nat.zero_le _
    · cases hlink with
      | literal hvalue =>
        obtain rfl := Option.some.inj hvalue
        exact Nat.succ_le_succ (ih _ _ hpath)

/-- Every node of the countdown reduces fully to the first one. -/
theorem reducesTo_countdown (n : Nat) : countdown.ReducesTo (.node n) (.node 0) := by
  induction n with
  | zero => exact .node rfl
  | succ n ih => exact .literal rfl ih

/-- Reduction goes down by as many nodes as the links that it follows. -/
theorem reduceWithin_countdown (bound n : Nat) :
    countdown.reduceWithin bound (.node (n + bound)) = .node n := by
  induction bound with
  | zero => rfl
  | succ bound ih => exact ih

/-- Behind 64 links the first node is just reached. -/
theorem reduce_full_countdown :
    countdown.LinksWithin 64 (.node 64) ∧
      countdown.reduce (countdown.reduce (.node 64)) = .node 0 ∧
      ∀ m ∈ (countdown.reduce (.node 64)).nodes, countdown.literal m = none := by
  have hlinks := linksWithin_countdown 64
  have hresult : countdown.reduce (.node 64) = .node 0 := reduceWithin_countdown 64 0
  obtain ⟨-, hnodes, hagain⟩ := (reduce_full countdown (.node 64)).2.2.2 hlinks
  exact ⟨hlinks, hagain.trans hresult, hnodes⟩

/-- **The limit is exact**: for any larger bound there is a slot that keeps to it and is not reduced
fully. -/
theorem exists_not_reducesTo_reduce {bound : Nat} (h : 64 < bound) :
    ∃ slot, countdown.LinksWithin bound slot ∧
      ¬ countdown.ReducesTo slot (countdown.reduce slot) := by
  obtain ⟨n, rfl⟩ : ∃ n, bound = n + 1 + 64 := ⟨bound - 65, by omega⟩
  refine ⟨.node (n + 1 + 64), linksWithin_countdown _, fun hfull => ?_⟩
  have hresult : countdown.reduce (.node (n + 1 + 64)) = .node (n + 1) :=
    reduceWithin_countdown 64 (n + 1)
  rw [hresult] at hfull
  cases hfull.unique (reducesTo_countdown _)

end TreeQuery.Tree
