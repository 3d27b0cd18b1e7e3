import TreeQuery.Proofs.Query.FirstMatch
import TreeQuery.Rule.Search

/-!
# Narrower options

Options can be narrowed: to the first match, or, where all nodes below are tested, to fewer
candidates.
**A search with narrower options finds some of the same nodes in the same order**, and it does not
fail where the wider one does not, since it makes no test that the wider one leaves out.

In a chain every link searches with the same options, so that a link behind starts from some of the
nodes and finds some of what it found before. A position breaks this, because the first of fewer
nodes may be another node. Combinators and the queries of pseudo classes take no notice of the
options.

## Main definitions and results

* `Fallible.Within` — listing some of what another operation lists.
* `Options.Narrows` — the ways to narrow options.
* `Tree.candidates_sublist`: narrower options keep some of the candidates in their order.
* `exists_sublist_of_narrows`: **queries without positions and rule sets find some of the same
  nodes**.
-/

namespace TreeQuery

/-! ### Listing less -/

namespace Fallible

variable {α β ε : Type}

/-- Where `whole` succeeds, `part` succeeds as well and lists some of the same elements in the same
order. -/
def Within (part whole : Except ε (List α)) : Prop :=
  ∀ all, whole = .ok all → ∃ kept, part = .ok kept ∧ kept.Sublist all

/-- Every operation is within itself. -/
theorem Within.refl (whole : Except ε (List α)) : Within whole whole :=
  fun all h => ⟨all, h, .refl all⟩

/-- Listing nothing is within every operation. -/
theorem Within.nil (whole : Except ε (List α)) : Within (.ok []) whole :=
  fun all _ => ⟨[], rfl, List.nil_sublist all⟩

/-- What is within a part is within the whole. -/
theorem Within.trans {part middle whole : Except ε (List α)} (h : Within part middle)
    (h' : Within middle whole) : Within part whole := by
  intro all hall
  obtain ⟨some, hsome, hsub⟩ := h' all hall
  obtain ⟨kept, hkept, hsub'⟩ := h some hsome
  exact ⟨kept, hkept, hsub'.trans hsub⟩

/-- Listing the first element alone is within listing all. -/
theorem FirstOf.within {part whole : Except ε (List α)} (h : FirstOf part whole) :
    Within part whole :=
  fun all hall => ⟨all.take 1, h all hall, List.take_sublist 1 all⟩

/-- Two operations in a row are within two that each is within. -/
theorem Within.append {part part' whole whole' : Except ε (List α)} (h : Within part whole)
    (h' : Within part' whole') :
    Within (part >>= fun a => part' >>= fun b => .ok (a ++ b))
      (whole >>= fun a => whole' >>= fun b => .ok (a ++ b)) := by
  intro all hall
  obtain ⟨first, others, hfirst, hothers, rfl⟩ := bind_bind_ok_eq_ok.mp hall
  obtain ⟨kept, rfl, hsub⟩ := h first hfirst
  obtain ⟨kept', rfl, hsub'⟩ := h' others hothers
  exact ⟨kept ++ kept', rfl, hsub.append hsub'⟩

/-- Fewer elements are gathered from, and less is found for each. -/
theorem gather_within {find find' : α → Except ε (List β)} {part whole : List α}
    (h : part.Sublist whole) (hfind : ∀ a, Within (find a) (find' a)) :
    Within (gather find part) (gather find' whole) := by
  induction h with
  | slnil => exact .refl _
  | cons a _ ih =>
    intro all hall
    obtain ⟨first, others, -, hothers, rfl⟩ := gather_cons_eq_ok.mp hall
    obtain ⟨kept, hkept, hsub⟩ := ih others hothers
    exact ⟨kept, hkept, hsub.trans (List.sublist_append_right first others)⟩
  | cons_cons a _ ih => exact (hfind a).append ih

/-- What is gathered from less is less. -/
theorem Within.gather {find find' : α → Except ε (List β)} {part whole : Except ε (List α)}
    (h : Within part whole) (hfind : ∀ a, Within (find a) (find' a)) :
    Within (part >>= gather find) (whole >>= gather find') := by
  intro all hall
  obtain ⟨found, hfound, hgather⟩ := bind_eq_ok.mp hall
  obtain ⟨kept, rfl, hsub⟩ := h found hfound
  exact gather_within hsub hfind all hgather

variable {test : α → Except ε Bool}

/-- Of fewer elements fewer pass. -/
theorem filter_within {part whole : List α} (h : part.Sublist whole) :
    Within (filter test part) (filter test whole) := by
  induction h with
  | slnil => exact .refl _
  | cons a _ ih =>
    intro all hall
    obtain ⟨passes, others, -, hothers, rfl⟩ := filter_cons_eq_ok.mp hall
    obtain ⟨kept, hkept, hsub⟩ := ih others hothers
    refine ⟨kept, hkept, ?_⟩
    split
    · exact hsub.cons a
    · exact hsub
  | cons_cons a _ ih =>
    intro all hall
    obtain ⟨passes, others, hpasses, hothers, rfl⟩ := filter_cons_eq_ok.mp hall
    obtain ⟨kept, hkept, hsub⟩ := ih others hothers
    refine ⟨_, filter_cons_eq_ok.mpr ⟨passes, kept, hpasses, hkept, rfl⟩, ?_⟩
    split
    · exact hsub.cons_cons a
    · exact hsub

end Fallible

/-! ### Options -/

/-- The ways to narrow the options of a search that lists all matches. -/
inductive Options.Narrows : Options → Options → Prop where
  /-- One match is enough. -/
  | first {wide : Options} : wide.stopAtFirstMatch = false →
      Narrows { wide with stopAtFirstMatch := true } wide
  /-- A search that tests all nodes below is narrowed to any other one, except that the starting
  node is not added. -/
  | part {narrow wide : Options} : wide.stopAtFirstMatch = false → wide.recursive = true →
      (narrow.includingSelf = true → wide.includingSelf = true) → Narrows narrow wide

variable {ν : Type} {t : Tree ν} {narrow wide : Options}

namespace Options.Narrows

/-- Only a search that lists all matches is narrowed. -/
theorem stopAtFirstMatch_eq (h : narrow.Narrows wide) : wide.stopAtFirstMatch = false := by
  cases h <;> assumption

/-- A narrower search tests the starting node only if the wider one does. -/
theorem includingSelf_of (h : narrow.Narrows wide) (hself : narrow.includingSelf = true) :
    wide.includingSelf = true := by
  cases h with
  | first _ => exact hself
  | part _ _ hsub => exact hsub hself

end Options.Narrows

/-! ### Trees -/

/-- The children of a node are among its descendants, in their order. -/
theorem Tree.childNodes_sublist_descendants (t : Tree ν) (n : ν) :
    (t.childNodes n).Sublist (t.descendants n) := by
  rw [descendants_eq]
  induction t.childNodes n with
  | nil => exact .slnil
  | cons c cs ih =>
    rw [List.flatMap_cons, List.cons_append]
    exact (ih.trans (List.sublist_append_right (t.descendants c) _)).cons_cons c

/-- **Narrower options keep some of the candidates** in their order. -/
theorem Tree.candidates_sublist (h : narrow.Narrows wide) (t : Tree ν) (n : ν) :
    (t.candidates narrow n).Sublist (t.candidates wide n) := by
  cases h with
  | first _ => exact .refl _
  | part _ hrecursive hself =>
    obtain ⟨self, recursive, stop⟩ := wide
    obtain rfl : recursive = true := hrecursive
    obtain ⟨self', recursive', stop'⟩ := narrow
    cases self' with
    | true =>
      obtain rfl : self = true := hself rfl
      cases recursive' with
      | true => exact .refl _
      | false => exact (List.nil_sublist _).cons_cons n
    | false =>
      have hbelow : (t.candidates ⟨false, recursive', stop'⟩ n).Sublist (t.descendants n) := by
        cases recursive' with
        | true => exact .refl _
        | false => exact t.childNodes_sublist_descendants n
      cases self with
      | true => exact hbelow.cons n
      | false => exact hbelow

/-- A search of a tree finds less with narrower options. -/
theorem Tree.search_within (h : narrow.Narrows wide) (t : Tree ν)
    (test : ν → Except MatchError Bool) (n : ν) :
    Fallible.Within (t.search narrow test n) (t.search wide test n) := by
  have hfilter : Fallible.Within (Fallible.filter test (t.candidates narrow n))
      (Fallible.filter test (t.candidates wide n)) :=
    Fallible.filter_within (t.candidates_sublist h n)
  rw [search_eq, search_eq, h.stopAtFirstMatch_eq]
  split
  · exact (Fallible.first?_firstOf_filter _ _).within.trans hfilter
  · exact hfilter

/-! ### Queries -/

/-- Whether neither a selector nor one behind its moves has a position. -/
def Selector.isUnplaced : Selector → Bool
  | ⟨_, _, some next, _, _, position⟩ => position.isNone && next.isUnplaced
  | ⟨_, _, none, _, _, position⟩ => position.isNone

/-- Whether no selector of a chain has a position. -/
def Chain.isUnplaced : Chain → Bool
  | last selector => selector.isUnplaced
  | link selector rest => selector.isUnplaced && rest.isUnplaced

/-- Whether no selector of the chains of a query has a position. In the queries of pseudo classes
and in values there may be positions. -/
def Query.isUnplaced (query : Query) : Bool := query.all Chain.isUnplaced

/-- A selector without positions has none of its own. -/
theorem Selector.position_of_isUnplaced {selector : Selector} (h : selector.isUnplaced = true) :
    selector.position = none := by
  unfold isUnplaced at h
  split at h
  · exact Option.isNone_iff_eq_none.mp (Bool.and_eq_true_iff.mp h).1
  · exact Option.isNone_iff_eq_none.mp h

/-- Without a position a compound lists all that passes. -/
theorem Selector.search_eq_gather_passing {selector : Selector} (hscope : selector.scope = none)
    (hcombinator : selector.combinator = none) (hposition : selector.position = none)
    (options : Options) (slot : Slot ν) :
    selector.search t options slot = Fallible.gather (selector.passing t options) slot.nodes := by
  rw [search_eq hscope hcombinator, hposition]
  exact congrArg (Fallible.gather · slot.nodes) (funext fun m => bind_pure _)

/-- Below a starting node a narrower search passes some of the nodes that the wider one passes. -/
theorem Selector.passing_within (h : narrow.Narrows wide) (selector : Selector) (m : ν) :
    Fallible.Within (selector.passing t narrow m) (selector.passing t wide m) := by
  unfold passing
  split
  · exact t.search_within h _ m
  · by_cases hself : narrow.includingSelf = true
    · rw [if_pos hself, if_pos (h.includingSelf_of hself)]
      exact .refl _
    · rw [if_neg hself]
      exact .nil _

/-- A selector that does not move finds less in a narrower search, from every slot. -/
theorem Selector.search_within_compound (h : narrow.Narrows wide) {selector : Selector}
    (hscope : selector.scope = none) (hcombinator : selector.combinator = none)
    (hplain : selector.isUnplaced = true) (slot : Slot ν) :
    Fallible.Within (selector.search t narrow slot) (selector.search t wide slot) := by
  have hposition := position_of_isUnplaced hplain
  rw [search_eq_gather_passing hscope hcombinator hposition,
    search_eq_gather_passing hscope hcombinator hposition]
  exact Fallible.gather_within (.refl _) (passing_within h _)

/-- A selector finds less with narrower options. **Behind a combinator it finds the same.** -/
theorem Selector.search_within (h : narrow.Narrows wide) {selector : Selector}
    (hplain : selector.isUnplaced = true) (slot : Slot ν) :
    Fallible.Within (selector.search t narrow slot) (selector.search t wide slot) := by
  induction selector using isUnplaced.induct generalizing slot with
  | case1 scope combinator next kindTest pseudoTest position ih =>
    rcases combinator with _ | combinator
    · rcases scope with _ | path
      · exact search_within_compound h rfl rfl hplain slot
      · rw [search, search]
        rw [isUnplaced, Bool.and_eq_true] at hplain
        exact Fallible.gather_within (.refl _) fun n => ih hplain.2 (t.resolve n path)
    · rw [search, search]
      exact .refl _
  | case2 scope combinator kindTest pseudoTest position =>
    rcases combinator with _ | combinator
    · rcases scope with _ | path
      · exact search_within_compound h rfl rfl hplain slot
      · exact .refl _
    · exact .refl _

/-- A chain finds less in a narrower search, link by link. -/
theorem Chain.search_within (h : narrow.Narrows wide) {chain : Chain}
    (hplain : chain.isUnplaced = true) (slot : Slot ν) :
    Fallible.Within (chain.search t narrow slot) (chain.search t wide slot) := by
  induction chain using isUnplaced.induct generalizing slot with
  | case1 selector => exact Selector.search_within h hplain slot
  | case2 selector rest ih =>
    obtain ⟨hselector, hrest⟩ := Bool.and_eq_true_iff.mp hplain
    rw [search, search]
    exact (Selector.search_within h hselector slot).gather fun n => ih hrest (.node n)

/-- **A query finds less in a narrower search**, alternative by alternative. -/
theorem Query.search_within (h : narrow.Narrows wide) {query : Query}
    (hplain : query.isUnplaced = true) (slot : Slot ν) :
    Fallible.Within (query.search t narrow slot) (query.search t wide slot) := by
  rw [search_eq_gather, search_eq_gather]
  induction query with
  | nil => exact .refl _
  | cons chain query ih =>
    obtain ⟨hchain, hquery⟩ := Bool.and_eq_true_iff.mp hplain
    exact (Chain.search_within h hchain slot).append (ih hquery)

/-! ### Both searches -/

/-- **Queries without positions and rule sets find some of the same nodes, in the same order, when
the options are narrowed**, and do not fail then if they did not before. -/
theorem exists_sublist_of_narrows (h : narrow.Narrows wide) (t : Tree ν) (slot : Slot ν)
    (found : List ν) :
    (∀ query : Query, query.isUnplaced = true → query.search t wide slot = .ok found →
      ∃ kept, query.search t narrow slot = .ok kept ∧ kept.Sublist found) ∧
    (∀ ruleSet : RuleSet, ruleSet.search t wide slot = .ok found →
      ∃ kept, ruleSet.search t narrow slot = .ok kept ∧ kept.Sublist found) := by
  constructor
  · intro query hplain hfound
    exact Query.search_within h hplain slot found hfound
  · intro ruleSet hfound
    have hwithin : Fallible.Within (ruleSet.search t narrow slot) (ruleSet.search t wide slot) :=
      Fallible.gather_within (.refl _) fun n => t.search_within h _ n
    exact hwithin found hfound

/-- A list of two items, the first of which has an item below it. -/
def nestedItems : Tree (Fin 4) where
  kind n := if n = 0 then "list" else "item"
  source _ := ""
  children
    | 0 => [.node 1, .list [.node 2, .absent]]
    | 1 => [.node 3]
    | _ => []
  siblings _ := []
  accessor _ _ := none
  literal _ := none
  isTransparent _ := false
  height
    | 0 => 2
    | 1 => 1
    | _ => 0
  height_lt := by decide

/-- The items. -/
def itemQuery : Query := [.last { kindTest := some ⟨"item", []⟩ }]

/-- The items again, as a rule. -/
def itemRules : RuleSet := .ofRules [⟨"node_type", .text "item"⟩]

/-- The children alone are searched, and only for the first item. -/
theorem exists_sublist_of_narrows_nestedItems :
    Options.Narrows { includingSelf := false, recursive := false, stopAtFirstMatch := true } {} ∧
      itemQuery.isUnplaced = true ∧
      itemQuery.search nestedItems {} (.node 0) = .ok [1, 3, 2] ∧
      itemRules.search nestedItems {} (.node 0) = .ok [1, 3, 2] ∧
      (∃ kept, itemQuery.search nestedItems
          { includingSelf := false, recursive := false, stopAtFirstMatch := true } (.node 0) =
            .ok kept ∧ kept.Sublist [1, 3, 2]) ∧
      ∃ kept, itemRules.search nestedItems
          { includingSelf := false, recursive := false, stopAtFirstMatch := true } (.node 0) =
            .ok kept ∧ kept.Sublist [1, 3, 2] := by
  have hnarrows : Options.Narrows
      { includingSelf := false, recursive := false, stopAtFirstMatch := true } {} :=
    .part rfl rfl nofun
  have hplain : itemQuery.isUnplaced = true := rfl
  have hquery : itemQuery.search nestedItems {} (.node 0) = .ok [1, 3, 2] := by cbv
  have hrules : itemRules.search nestedItems {} (.node 0) = .ok [1, 3, 2] := by cbv
  obtain ⟨hqueries, hruleSets⟩ :=
    exists_sublist_of_narrows hnarrows nestedItems (.node 0) [1, 3, 2]
  exact ⟨hnarrows, hplain, hquery, hrules, hqueries _ hplain hquery, hruleSets _ hrules⟩

end TreeQuery
