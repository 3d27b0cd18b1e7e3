import TreeQuery.Arena
import TreeQuery.Proofs.Query.Searching
import TreeQuery.Query.Parser
import TreeQuery.Rule.Search

/-!
# Stopping at the first match

Options that stop at the first match end **one walk of a tree** with the first node that passes. A
query makes many walks: one for every alternative, for every node that a link starts from, and for
every node of the slot that a scope leads to. Each of them is ended by itself, before a position
picks from what it found, and a combinator walks nowhere. So a search that stops is the same search
with `:first-child` written on every compound.

It finds the first match where nothing multiplies the walks: one alternative, no scope that leads to
several nodes, no compound with `:last-child`, no combinator that may find several nodes. Then it
finds the first match or nothing, and nothing only if the first node found by some link is a **dead
end**, from which the rest of the chain finds nothing.

## Main definitions and results

* `Query.placeFirst` — a query with `:first-child` on every compound.
* `Chain.SearchesOnce` — no link of a chain makes several walks from one node.
* `Chain.LeadsOn` — no link begins with a dead end.
* `Query.search_stopping`: **what a search that stops finds**, and when that is the first match.
* `RuleSet.search_stopping_first`: rule sets stop at the first match.
-/

namespace TreeQuery

/-! ### Listing the first -/

namespace Fallible

variable {α β ε : Type}

/-- Where `whole` succeeds, `part` succeeds as well and lists the first of the same elements, if
any. -/
def FirstOf (part whole : Except ε (List α)) : Prop :=
  ∀ all, whole = .ok all → part = .ok (all.take 1)

/-- A list of at most one element is the first of itself. -/
theorem FirstOf.of_length_le_one {whole : Except ε (List α)}
    (h : ∀ all, whole = .ok all → all.length ≤ 1) : FirstOf whole whole := by
  intro all hall
  rw [List.take_of_length_le (h all hall)]
  exact hall

/-- Ending a run at the first element that passes gives the first of those that pass. -/
theorem first?_firstOf_filter (test : α → Except ε Bool) (as : List α) :
    FirstOf (first? test as >>= fun hit => .ok hit.toList) (filter test as) := by
  induction as with
  | nil =>
    intro all hall
    cases hall
    rfl
  | cons a as ih =>
    intro all hall
    obtain ⟨passes, others, hpasses, hothers, rfl⟩ := filter_cons_eq_ok.mp hall
    rw [first?, hpasses]
    cases passes with
    | false => exact ih others hothers
    | true => rfl

/-- The elements that pass keep their order. -/
theorem filter_sublist {test : α → Except ε Bool} {as kept : List α}
    (h : filter test as = .ok kept) :
    kept.Sublist as := by
  induction as generalizing kept with
  | nil =>
    cases h
    exact .slnil
  | cons a as ih =>
    obtain ⟨passes, others, -, hothers, rfl⟩ := filter_cons_eq_ok.mp h
    cases passes with
    | false => exact (ih hothers).cons a
    | true => exact (ih hothers).cons_cons a

/-- What is gathered from one element at most is found at once. -/
theorem gather_firstOf {find find' : α → Except ε (List β)} {as : List α} (hone : as.length ≤ 1)
    (h : ∀ a, FirstOf (find' a) (find a)) : FirstOf (gather find' as) (gather find as) := by
  match as, hone with
  | [], _ =>
    intro all hall
    cases hall
    rfl
  | [a], _ =>
    rw [gather_singleton, gather_singleton]
    exact h a

/-- Gathering keeps what is found for each element. -/
theorem gather_eq_of_forall {find find' : α → Except ε (List β)} {as : List α} {all : List β}
    (h : ∀ a found, find a = .ok found → find' a = .ok found) (hall : gather find as = .ok all) :
    gather find' as = .ok all := by
  induction as generalizing all with
  | nil => exact hall
  | cons a as ih =>
    obtain ⟨found, others, hfound, hothers, heq⟩ := gather_cons_eq_ok.mp hall
    exact gather_cons_eq_ok.mpr ⟨found, others, h a found hfound, ih hothers, heq⟩

end Fallible

open Fallible

variable {ν : Type} {t : Tree ν} {options : Options}

/-! ### Trees and rule sets -/

/-- The same options, but one match is enough. -/
def Options.stopping (options : Options) : Options := { options with stopAtFirstMatch := true }

/-- **A walk that stops finds the first match.** -/
theorem Tree.search_firstOf (hstop : options.stopAtFirstMatch = false)
    (test : ν → Except MatchError Bool) (n : ν) :
    FirstOf (t.search options.stopping test n) (t.search options test n) := by
  rw [search_eq, search_eq, if_pos (by rfl), if_neg (by simp [hstop])]
  exact first?_firstOf_filter test (t.candidates options n)

/-- A rule set makes one walk from a node, so that **stopping gives the first match**. -/
theorem RuleSet.search_stopping_first (hstop : options.stopAtFirstMatch = false)
    {ruleSet : RuleSet} {n : ν} {all : List ν}
    (hall : ruleSet.search t options (.node n) = .ok all) :
    ruleSet.search t options.stopping (.node n) = .ok (all.take 1) :=
  have hone : [n].length ≤ 1 := Nat.le_refl 1
  gather_firstOf hone (Tree.search_firstOf hstop (ruleSet.holds t)) all hall

/-! ### Writing `:first-child` everywhere -/

/-- A selector with `:first-child` on its compound. Behind a combinator there is none: what stands
there only tests the nodes that the combinator leads to. -/
def Selector.placeFirst : Selector → Selector
  | ⟨scope, some combinator, next, kindTest, pseudoTest, position⟩ =>
    ⟨scope, some combinator, next, kindTest, pseudoTest, position⟩
  | ⟨some path, none, some next, kindTest, pseudoTest, position⟩ =>
    ⟨some path, none, some next.placeFirst, kindTest, pseudoTest, position⟩
  | ⟨scope, none, next, kindTest, pseudoTest, _⟩ =>
    ⟨scope, none, next, kindTest, pseudoTest, some .first⟩

/-- A chain with `:first-child` on every compound. -/
def Chain.placeFirst : Chain → Chain
  | last selector => last selector.placeFirst
  | link selector rest => link selector.placeFirst rest.placeFirst

/-- A query with `:first-child` on every compound. -/
def Query.placeFirst (query : Query) : Query := query.map Chain.placeFirst

/-- A position has no choice among one node. -/
theorem Position.keep_take_one (position : Option Position) (found : List ν) :
    keep position (found.take 1) = found.take 1 := by
  cases position with
  | none => rfl
  | some position => cases position <;> cases found <;> rfl

/-- Without a kind the node is tested from which the search starts. -/
theorem Selector.length_passing_le_one {selector : Selector} (hkind : selector.kindTest = none)
    {m : ν}
    {passed : List ν} (h : selector.passing t options m = .ok passed) : passed.length ≤ 1 := by
  rw [passing, hkind, if_neg (by simp)] at h
  split at h
  · exact (filter_sublist h).length_le
  · cases h
    exact Nat.zero_le 1

/-- What passes the tests of a compound below a node is, with a search that stops, the first of
what passes them otherwise. -/
theorem Selector.passing_firstOf (hstop : options.stopAtFirstMatch = false) (selector : Selector)
    (m : ν) : FirstOf (selector.passing t options.stopping m) (selector.passing t options m) := by
  cases hkind : selector.kindTest with
  | none =>
    -- the options that are changed are not looked at
    have hsame : selector.passing t options.stopping m = selector.passing t options m := by
      rw [passing, passing, hkind]
      rfl
    rw [hsame]
    exact .of_length_le_one fun passed hpassed => length_passing_le_one hkind hpassed
  | some test =>
    rw [passing, passing, hkind]
    exact Tree.search_firstOf hstop _ m

/-- A position takes no part in the tests. -/
theorem Selector.passing_position (selector : Selector) (position : Option Position) (m : ν) :
    ({ selector with position } : Selector).passing t options m = selector.passing t options m := by
  unfold passing
  simp only [holds_eq]

/-- A compound that stops finds what it finds with `:first-child`. -/
theorem Selector.search_stopping_compound (hstop : options.stopAtFirstMatch = false)
    {selector : Selector} (hscope : selector.scope = none)
    (hcombinator : selector.combinator = none) {slot : Slot ν} {found : List ν}
    (h : ({ selector with position := some .first } : Selector).search t options slot = .ok found) :
    selector.search t options.stopping slot = .ok found := by
  rw [search_eq (by exact hscope) (by exact hcombinator)] at h
  rw [search_eq hscope hcombinator]
  refine gather_eq_of_forall (fun m kept hkept => ?_) h
  obtain ⟨passed, hpassed, rfl⟩ := bind_ok_eq_ok.mp hkept
  rw [passing_position] at hpassed
  have hfirst := selector.passing_firstOf hstop m passed hpassed
  exact bind_ok_eq_ok.mpr ⟨passed.take 1, hfirst, Position.keep_take_one _ passed⟩

/-- A selector that stops finds what it finds with `:first-child` on its compound. -/
theorem Selector.search_stopping_of_placeFirst (hstop : options.stopAtFirstMatch = false)
    {selector : Selector} {slot : Slot ν} {found : List ν}
    (h : selector.placeFirst.search t options slot = .ok found) :
    selector.search t options.stopping slot = .ok found := by
  induction selector using placeFirst.induct generalizing slot found with
  | case1 scope combinator next kindTest pseudoTest position =>
    rw [placeFirst] at h
    cases next <;> exact h
  | case2 path next kindTest pseudoTest position ih =>
    rw [placeFirst, search] at h
    rw [search]
    exact gather_eq_of_forall (fun n kept hkept => ih hkept) h
  | case3 scope next kindTest pseudoTest position hmove =>
    rw [placeFirst.eq_3 _ _ _ _ _ hmove] at h
    rcases scope with _ | path
    · exact search_stopping_compound hstop rfl rfl h
    · cases next with
      | none => exact h
      | some next => exact absurd rfl (hmove path next rfl)

/-- A chain that stops finds what it finds with `:first-child` on every compound. -/
theorem Chain.search_stopping_of_placeFirst (hstop : options.stopAtFirstMatch = false)
    {chain : Chain} {slot : Slot ν} {found : List ν}
    (h : chain.placeFirst.search t options slot = .ok found) :
    chain.search t options.stopping slot = .ok found := by
  induction chain using placeFirst.induct generalizing slot found with
  | case1 selector => exact Selector.search_stopping_of_placeFirst hstop h
  | case2 selector rest ih =>
    obtain ⟨starts, hstarts, hrest⟩ := bind_eq_ok.mp h
    rw [search, Selector.search_stopping_of_placeFirst hstop hstarts]
    exact gather_eq_of_forall (fun n kept hkept => ih hkept) hrest

/-- **A search that stops is a search with `:first-child` on every compound.** -/
theorem Query.search_stopping_of_placeFirst (hstop : options.stopAtFirstMatch = false)
    {query : Query}
    {slot : Slot ν} {found : List ν} (h : query.placeFirst.search t options slot = .ok found) :
    query.search t options.stopping slot = .ok found := by
  rw [search_eq_gather] at h ⊢
  induction query generalizing found with
  | nil => exact h
  | cons chain query ih =>
    obtain ⟨first, others, hfirst, hothers, heq⟩ := gather_cons_eq_ok.mp h
    have hstopping := Chain.search_stopping_of_placeFirst hstop hfirst
    exact gather_cons_eq_ok.mpr ⟨first, others, hstopping, ih hothers, heq⟩

/-! ### Selectors that make one walk -/

/-- A selector makes one walk from a node: its scopes lead to one node at most, its compound has no
`:last-child`, and its combinator finds one node at most. A list is no obstacle in front of a
combinator, since it acts as one parent. -/
def Selector.SearchesOnce (t : Tree ν) : Selector → Prop
  | ⟨_, some combinator, some next, _, _, _⟩ => combinator = .nextSibling ∨ next.position ≠ none
  | ⟨some path, none, some next, _, _, _⟩ =>
    (next.combinator = none → ∀ n, (t.resolve n path).nodes.length ≤ 1) ∧ next.SearchesOnce t
  | ⟨_, _, _, kindTest, _, position⟩ => kindTest = none ∨ position ≠ some .last

/-- Every selector of a chain makes one walk from a node. -/
def Chain.SearchesOnce (t : Tree ν) : Chain → Prop
  | last selector => selector.SearchesOnce t
  | link selector rest => selector.SearchesOnce t ∧ rest.SearchesOnce t

/-- At most one node is the next sibling. -/
theorem Tree.length_reached_nextSibling (t : Tree ν) (slot : Slot ν) :
    (t.reached .nextSibling slot).length ≤ 1 := by
  cases slot with
  | node n => exact List.length_take_le 1 _
  | _ => exact Nat.zero_le 1

/-- A position keeps some of the nodes in their order. -/
theorem Position.keep_sublist (position : Option Position) (found : List ν) :
    (keep position found).Sublist found := by
  cases position with
  | none => exact .refl found
  | some position =>
    cases position with
    | first => exact List.take_sublist 1 found
    | last =>
      rw [keep]
      cases hlast : found.getLast? with
      | none => exact List.nil_sublist found
      | some n => exact List.singleton_sublist.mpr (List.mem_of_getLast? hlast)

/-- A position keeps at most one node. -/
theorem Position.length_keep_le_one {position : Option Position} (h : position ≠ none)
    (found : List ν) : (keep position found).length ≤ 1 := by
  obtain ⟨position, rfl⟩ := Option.ne_none_iff_exists'.mp h
  cases position with
  | first => exact List.length_take_le 1 found
  | last =>
    rw [keep]
    cases found.getLast? <;> simp

/-- A position other than the last keeps the first node, or there is only one. -/
theorem Position.keep_first_firstOf {position : Option Position}
    {whole : Except MatchError (List ν)}
    (h : ∀ found, whole = .ok found → found.length ≤ 1 ∨ position ≠ some .last) :
    FirstOf (whole >>= fun found => .ok (keep (some .first) found))
      (whole >>= fun found => .ok (keep position found)) := by
  intro all hall
  obtain ⟨found, rfl, rfl⟩ := bind_ok_eq_ok.mp hall
  refine congrArg Except.ok ?_
  rcases position with _ | _ | _
  · rfl
  · exact (keep_take_one (some .first) found).symm
  · rcases h found rfl with hone | hlast
    · rw [← List.take_of_length_le hone, keep_take_one, keep_take_one, List.take_take,
        Nat.min_self]
    · exact absurd rfl hlast

/-- What a selector that makes one walk finds first is what it finds with `:first-child`. -/
theorem Selector.placeFirst_firstOf {selector : Selector} (honce : selector.SearchesOnce t)
    {slot : Slot ν} (hslot : selector.combinator = none → slot.nodes.length ≤ 1) :
    FirstOf (selector.placeFirst.search t options slot) (selector.search t options slot) := by
  induction selector using SearchesOnce.induct generalizing slot with
  | case1 scope combinator next kindTest pseudoTest position =>
    rw [placeFirst]
    refine .of_length_le_one fun all hall => ?_
    rw [search] at hall
    obtain ⟨passed, hpassed, rfl⟩ := bind_ok_eq_ok.mp hall
    rcases honce with rfl | hposition
    · calc (Position.keep next.position passed).length
        _ ≤ passed.length := (Position.keep_sublist _ passed).length_le
        _ ≤ (t.reached .nextSibling slot).length := (filter_sublist hpassed).length_le
        _ ≤ 1 := t.length_reached_nextSibling slot
    · exact Position.length_keep_le_one hposition passed
  | case2 path next kindTest pseudoTest position ih =>
    obtain ⟨hpath, hnext⟩ := honce
    rw [placeFirst, search, search]
    exact gather_firstOf (hslot rfl) fun n => ih hnext fun hcombinator => hpath hcombinator n
  | case3 scope combinator next kindTest pseudoTest position hcombinator hscope =>
    rw [SearchesOnce.eq_3 _ _ _ _ _ _ _ hcombinator hscope] at honce
    rcases combinator with _ | combinator
    · rcases scope with _ | path
      · rw [placeFirst.eq_3 _ _ _ _ _ (by simp), search_eq rfl rfl, search_eq rfl rfl]
        refine gather_firstOf (hslot rfl) fun m => ?_
        rw [passing_position ⟨none, none, next, kindTest, pseudoTest, position⟩]
        exact Position.keep_first_firstOf fun found hfound =>
          honce.imp_left fun hkind => length_passing_le_one hkind hfound
      · cases next with
        | none => exact .of_length_le_one fun all hall => by cases hall; exact Nat.zero_le 1
        | some next => exact absurd rfl (hscope path next rfl rfl)
    · cases next with
      | none => exact .of_length_le_one fun all hall => by cases hall; exact Nat.zero_le 1
      | some next => exact absurd rfl (hcombinator combinator next rfl)

/-! ### Dead ends -/

/-- No link begins with a dead end: where the first node that a link finds leads to nothing, none of
the nodes that it finds does. -/
def Chain.LeadsOn (t : Tree ν) (options : Options) : Chain → Slot ν → Prop
  | last _, _ => True
  | link selector rest, slot => ∀ n others, selector.search t options slot = .ok (n :: others) →
    rest.LeadsOn t options (.node n) ∧
      (rest.search t options (.node n) = .ok [] →
        (link selector rest).search t options slot = .ok [])

/-- **A chain of single walks finds its first match or nothing** when `:first-child` is written
everywhere, and nothing in spite of a match only behind a dead end. -/
theorem Chain.exists_placeFirst {chain : Chain} (honce : chain.SearchesOnce t) {n : ν}
    {all : List ν} (hall : chain.search t options (.node n) = .ok all) :
    ∃ kept, chain.placeFirst.search t options (.node n) = .ok kept ∧
      (kept = [] ∨ kept = all.take 1) ∧
      (kept = all.take 1 ↔ chain.LeadsOn t options (.node n)) := by
  have hone : (Slot.node n).nodes.length ≤ 1 := Nat.le_refl 1
  induction chain using placeFirst.induct generalizing n all with
  | case1 selector =>
    exact ⟨all.take 1, Selector.placeFirst_firstOf honce (fun _ => hone) all hall, .inr rfl,
      iff_of_true rfl trivial⟩
  | case2 selector rest ih =>
    obtain ⟨hselector, hrest⟩ := honce
    have hlink : (link selector rest).search t options (.node n) = .ok all := hall
    obtain ⟨found, hfound, hgather⟩ := bind_eq_ok.mp hall
    have hfirst := Selector.placeFirst_firstOf hselector (fun _ => hone) found hfound
    rw [placeFirst, search, hfirst, LeadsOn, hfound, hlink]
    match found, hgather with
    | [], hgather =>
      obtain rfl : [] = all := Except.ok.inj hgather
      exact ⟨[], rfl, .inl rfl, iff_of_true rfl nofun⟩
    | m :: others, hgather =>
      obtain ⟨first, behind, hm, -, rfl⟩ := gather_cons_eq_ok.mp hgather
      obtain ⟨kept, hkept, hor, hiff⟩ := ih hrest hm (Nat.le_refl 1)
      have hgathered :
          gather (fun m => rest.placeFirst.search t options (.node m)) [m] = .ok kept :=
        (gather_singleton _ m).trans hkept
      refine ⟨kept, hgathered, ?_⟩
      cases first with
      | nil =>
        obtain rfl : kept = [] := by simpa using hor
        refine ⟨.inl rfl, fun hnil => ?_, fun h => ?_⟩
        · rintro _ _ ⟨⟩
          have hbehind : behind = [] := by simpa using hnil.symm
          exact ⟨hiff.mp rfl, fun _ => congrArg Except.ok hbehind⟩
        · have hbehind : behind = [] := Except.ok.inj ((h m others rfl).2 hm)
          rw [hbehind]
          rfl
      | cons x first =>
        refine ⟨hor, fun hkept => ?_, fun h => hiff.mpr (h m others rfl).1⟩
        rintro _ _ ⟨⟩
        exact ⟨hiff.mp hkept, fun hnil => by cases hm.symm.trans hnil⟩

/-! ### Queries -/

/-- **A search that stops is a search with `:first-child` on every compound**, for every query. For
one alternative whose links each make one walk it finds the first match or nothing, and it finds the
first match exactly when no link begins with a dead end. -/
theorem Query.search_stopping {query : Query} (hstop : options.stopAtFirstMatch = false) {root : ν}
    {all : List ν} (hall : query.search t options (.node root) = .ok all) :
    (∀ firsts, query.placeFirst.search t options (.node root) = .ok firsts →
      query.search t { options with stopAtFirstMatch := true } (.node root) = .ok firsts) ∧
    ∀ chain, query = [chain] → chain.SearchesOnce t →
      ∃ kept,
        query.search t { options with stopAtFirstMatch := true } (.node root) = .ok kept ∧
        (kept = [] ∨ kept = all.take 1) ∧
        (kept = all.take 1 ↔ chain.LeadsOn t options (.node root)) := by
  refine ⟨fun firsts hfirsts => search_stopping_of_placeFirst hstop hfirsts, ?_⟩
  rintro chain rfl honce
  have hchain (c : Chain) : Query.search t options [c] (.node root) =
      (c.search t options (.node root) >>= fun found => .ok (found ++ [])) := rfl
  obtain ⟨found, hfound, heq⟩ := bind_eq_ok.mp ((hchain chain).symm.trans hall)
  obtain rfl : found = all := (List.append_nil found).symm.trans (Except.ok.inj heq)
  obtain ⟨kept, hkept, hor, hiff⟩ := Chain.exists_placeFirst honce hfound
  refine ⟨kept, search_stopping_of_placeFirst hstop ?_, hor, hiff⟩
  refine (hchain chain.placeFirst).trans ?_
  rw [hkept]
  exact congrArg Except.ok (List.append_nil kept)

/-- A root with two lists, the first of which is empty while the second one holds an item. -/
def twoLists : Arena where
  nodes := #[{ kind := "list", source := "[]" }, { kind := "item", source := "x" },
    { kind := "list", source := "[x]", entries := [⟨none, .node 1⟩] },
    { kind := "root", source := "[] [x]", entries := [⟨none, .list [.node 0, .node 2]⟩] }]
  held_lt := by decide

/-- The items in lists. -/
def listedQuery : Chain :=
  .link { kindTest := some ⟨"list", []⟩ } (.last { kindTest := some ⟨"item", []⟩ })

/-- The search that stops goes on from the empty list alone, a dead end, and finds nothing. -/
theorem search_stopping_twoLists :
    Query.search twoLists.tree {} [listedQuery] (.node 3) = .ok [1] ∧
      listedQuery.SearchesOnce twoLists.tree ∧
      ∃ kept,
        Query.search twoLists.tree { stopAtFirstMatch := true } [listedQuery] (.node 3) = .ok kept ∧
        (kept = [] ∨ kept = [1]) ∧
        (kept = [1] ↔ listedQuery.LeadsOn twoLists.tree {} (.node 3)) := by
  have hall : Query.search twoLists.tree {} [listedQuery] (.node 3) = .ok [1] := by cbv
  have honce : listedQuery.SearchesOnce twoLists.tree :=
    ⟨.inr (Option.some_ne_none _).symm, .inr (Option.some_ne_none _).symm⟩
  exact ⟨hall, honce, (Query.search_stopping rfl hall).2 _ rfl honce⟩

/-- The lists and the items. -/
def eitherQuery : Query :=
  [.last { kindTest := some ⟨"list", []⟩ }, .last { kindTest := some ⟨"item", []⟩ }]

/-- Without stopping, the lists are found and then the item, which stands between them. -/
theorem search_eitherQuery : eitherQuery.search twoLists.tree {} (.node 3) = .ok [0, 2, 1] := by
  cbv

/-- A search for either kind stops in each of the two walks and finds two nodes. -/
theorem search_stopping_eitherQuery :
    eitherQuery.search twoLists.tree { stopAtFirstMatch := true } (.node 3) = .ok [0, 1] := by
  cbv

/-- A search that stops does not always find the first match alone: here it finds a match of each
alternative. -/
theorem not_forall_search_stopping :
    ¬ ∀ (text : String) (query : Query) (a : Arena) (options : Options) (root : Nat)
      (all : List Nat),
        Query.ofText text = .ok query → options.stopAtFirstMatch = false →
        query.search a.tree options (.node root) = .ok all →
        query.search a.tree { options with stopAtFirstMatch := true } (.node root) =
          .ok (all.take 1) := by
  intro h
  have hread : Query.ofText ".list, .item" = .ok eitherQuery := by cbv
  have hfirst := h _ _ twoLists {} 3 _ hread rfl search_eitherQuery
  cases search_stopping_eitherQuery.symm.trans hfirst

end TreeQuery
