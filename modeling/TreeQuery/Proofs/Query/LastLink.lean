import TreeQuery.Proofs.Query.RoundTrip
import TreeQuery.Proofs.Query.Searching

/-!
# What the nodes found have passed

A node that a query finds has passed the tests of the last link of some alternative, behind all
moves of that link. **A move directly behind a combinator is lost**: only the tests of the selector
that stands there are made, and a move has none, so that every node that the combinator leads to is
found.

## Main definitions and results

* `Selector.IsDirect` — no move stands directly behind a combinator.
* `Selector.search_of_next_ne_none`: a combinator with a move directly behind it tests nothing.
* `Query.accepts_of_mem_search`: **what is found was accepted by a last link that is direct, or
  found without a test** by one that is not.
-/

namespace TreeQuery

variable {ν : Type} {t : Tree ν} {options : Options}

/-! ### Where the tests are made -/

/-- The selector whose tests are made in the end: the one directly behind the first combinator, or
the compound itself where there is none. -/
def Selector.tested : Selector → Selector
  | ⟨_, some _, some next, _, _, _⟩ => next
  | ⟨some _, none, some next, _, _, _⟩ => next.tested
  | ⟨scope, combinator, next, kindTest, pseudoTest, position⟩ =>
    ⟨scope, combinator, next, kindTest, pseudoTest, position⟩

/-- No move stands directly behind a combinator. -/
def Selector.IsDirect (selector : Selector) : Prop := selector.tested.next = none

instance (selector : Selector) : Decidable selector.IsDirect :=
  inferInstanceAs (Decidable (selector.tested.next = none))

/-- The innermost test has nothing behind it. -/
theorem Selector.innermost_next (selector : Selector) : selector.innermost.next = none := by
  induction selector using innermost.induct with
  | case1 scope combinator next kindTest pseudoTest position ih => rwa [innermost]
  | case2 => rw [innermost]

/-- A selector with nothing behind it is its own innermost test. -/
theorem Selector.innermost_of_next_eq_none {selector : Selector} (h : selector.next = none) :
    selector.innermost = selector := by
  obtain ⟨scope, combinator, next, kindTest, pseudoTest, position⟩ := selector
  obtain rfl : next = none := h
  rw [innermost]

/-- **The tests are those of the innermost compound exactly when the selector is direct.** -/
theorem Selector.tested_eq_innermost_iff (selector : Selector) :
    selector.tested = selector.innermost ↔ selector.IsDirect := by
  constructor
  · intro h
    rw [IsDirect, h, innermost_next]
  · unfold IsDirect
    induction selector using tested.induct with
    | case1 scope combinator next kindTest pseudoTest position =>
      intro h
      rw [tested] at h ⊢
      rw [innermost, innermost_of_next_eq_none h]
    | case2 path next kindTest pseudoTest position ih =>
      intro h
      rw [tested] at h ⊢
      rw [innermost, ih h]
    | case3 scope combinator next kindTest pseudoTest position hcombinator hscope =>
      intro h
      rw [tested.eq_3 _ _ _ _ _ _ hcombinator hscope] at h ⊢
      exact (innermost_of_next_eq_none h).symm

/-! ### Searching -/

/-- **What a selector finds has passed the tests that are made.** -/
theorem Selector.tested_accepts_of_mem_search {selector : Selector} {slot : Slot ν} {found : List ν}
    (h : selector.search t options slot = .ok found) {n : ν} (hn : n ∈ found) :
    selector.tested.Accepts t n := by
  have hfinds := selector.finds_of_mem_search h hn
  clear h hn
  induction hfinds with
  | @byCombinator selector next combinator slot n hcombinator hnext _ hholds =>
    have htested : selector.tested = next := by
      obtain ⟨scope, _, _, kindTest, pseudoTest, position⟩ := selector
      obtain rfl : _ = some combinator := hcombinator
      obtain rfl : _ = some next := hnext
      rw [tested]
    rw [htested]
    exact holds_eq_ok_true.mp hholds
  | @byScope selector next path slot m n hcombinator hscope hnext _ _ ih =>
    have htested : selector.tested = next.tested := by
      obtain ⟨_, _, _, kindTest, pseudoTest, position⟩ := selector
      obtain rfl : _ = none := hcombinator
      obtain rfl : _ = some path := hscope
      obtain rfl : _ = some next := hnext
      rw [tested]
    rwa [htested]
  | @byTest selector slot m n hcombinator hscope _ _ hholds =>
    have htested : selector.tested = selector := by
      obtain ⟨_, _, next, kindTest, pseudoTest, position⟩ := selector
      obtain rfl : _ = none := hcombinator
      obtain rfl : _ = none := hscope
      rw [tested.eq_3 _ _ _ _ _ _ (by simp) (by simp)]
    rw [htested]
    exact holds_eq_ok_true.mp hholds

/-- What a chain finds was found by its last link. -/
theorem Chain.exists_of_mem_search {chain : Chain} {slot : Slot ν} {found : List ν}
    (h : chain.search t options slot = .ok found) {n : ν} (hn : n ∈ found) :
    ∃ start last, chain.final.search t options start = .ok last ∧ n ∈ last := by
  induction chain using Chain.final.induct generalizing slot found with
  | case1 selector => exact ⟨slot, found, h, hn⟩
  | case2 selector rest ih =>
    obtain ⟨middle, -, hrest⟩ := Fallible.bind_eq_ok.mp h
    obtain ⟨m, -, last, hlast, hmem⟩ := Fallible.exists_of_mem_gather hrest hn
    exact ih hlast hmem

/-- What a query finds was found by the last link of an alternative. -/
theorem Query.exists_of_mem_search {query : Query} {slot : Slot ν} {found : List ν}
    (h : query.search t options slot = .ok found) {n : ν} (hn : n ∈ found) :
    ∃ chain ∈ query, ∃ start last,
      chain.final.search t options start = .ok last ∧ n ∈ last := by
  rw [search_eq_gather] at h
  obtain ⟨chain, hchain, last, hlast, hmem⟩ := Fallible.exists_of_mem_gather h hn
  exact ⟨chain, hchain, Chain.exists_of_mem_search hlast hmem⟩

/-! ### Links that are not direct -/

/-- What stands behind the scopes of a selector. -/
def Selector.unscoped : Selector → Selector
  | ⟨some _, none, some next, _, _, _⟩ => next.unscoped
  | ⟨scope, combinator, next, kindTest, pseudoTest, position⟩ =>
    ⟨scope, combinator, next, kindTest, pseudoTest, position⟩

/-- A selector goes on with its combinator and finds all nodes that it leads to from a slot. -/
structure Selector.FindsReached (t : Tree ν) (options : Options) (selector : Selector)
    (combinator : Combinator) (start : Slot ν) : Prop where
  /-- The combinator stands behind the scopes. -/
  combinator_eq : selector.unscoped.combinator = some combinator
  /-- No node that it leads to is left out. -/
  search_eq : selector.unscoped.search t options start = .ok (t.reached combinator start)

/-- A selector with another one behind it makes a move and nothing else. -/
theorem Selector.isMove_of_next_ne_none {selector : Selector}
    (hcomposed : selector.isComposed = true) (hnext : selector.next ≠ none) :
    (selector.scope ≠ none ∨ selector.combinator ≠ none) ∧ selector.kindTest = none ∧
      selector.pseudoTest = none ∧ selector.position = none := by
  rcases eq_of_isComposed hcomposed with ⟨path, next, -, rfl⟩ | ⟨combinator, next, rfl⟩ |
    ⟨test, pseudoTest, position, -, rfl⟩ | ⟨test, position, rfl⟩ | ⟨position, rfl⟩
  · simp
  · simp
  · exact absurd rfl hnext
  · exact absurd rfl hnext
  · exact absurd rfl hnext

/-- **Where a move stands directly behind a combinator, every node that the combinator leads to is
found**, whatever the move leads to. -/
theorem Selector.search_of_next_ne_none {combinator : Combinator} {next : Selector}
    (hcomposed : next.isComposed = true) (hnext : next.next ≠ none) (slot : Slot ν) :
    search t options { combinator := some combinator, next := some next } slot =
      .ok (t.reached combinator slot) := by
  obtain ⟨-, hkind, hpseudo, hposition⟩ := isMove_of_next_ne_none hcomposed hnext
  have hholds : ∀ n ∈ t.reached combinator slot, next.holds t n n = .ok true := by
    intro n _
    rw [holds_eq, hkind, hpseudo]
    rfl
  have hfilter : Fallible.filter (fun n => next.holds t n n) (t.reached combinator slot) =
      .ok ((t.reached combinator slot).filter fun _ => true) := Fallible.filter_eq_ok hholds
  rw [search, hfilter, hposition]
  simp [bind, Except.bind, Position.keep, pure, Except.pure]

/-- What a link that is not direct finds is all that its combinator leads to from somewhere. -/
theorem Selector.exists_findsReached {selector : Selector} (hdirect : ¬ selector.IsDirect)
    (hgrammar : selector.meets grammar = true) {slot : Slot ν} {found : List ν}
    (h : selector.search t options slot = .ok found) {n : ν} (hn : n ∈ found) :
    ∃ combinator start, selector.FindsReached t options combinator start ∧
      n ∈ t.reached combinator start := by
  unfold IsDirect at hdirect
  induction selector using Selector.tested.induct generalizing slot found with
  | case1 scope combinator next kindTest pseudoTest position =>
    rcases eq_of_isComposed (meets_iff.mp hgrammar).1 with ⟨_, _, -, heq⟩ | ⟨_, _, heq⟩ |
      ⟨_, _, _, -, heq⟩ | ⟨_, _, heq⟩ | ⟨_, heq⟩ <;> cases heq
    rw [tested] at hdirect
    have hnext := (meets_iff.mp ((meets_iff.mp hgrammar).2.1 next rfl)).1
    have hsearch : search t options { combinator := some combinator, next := some next } slot =
        .ok (t.reached combinator slot) := search_of_next_ne_none hnext hdirect slot
    rw [hsearch] at h
    obtain rfl := Except.ok.inj h
    exact ⟨combinator, slot, ⟨rfl, hsearch⟩, hn⟩
  | case2 path next kindTest pseudoTest position ih =>
    rw [search] at h
    obtain ⟨m, -, kept, hkept, hmem⟩ := Fallible.exists_of_mem_gather h hn
    rw [tested] at hdirect
    obtain ⟨combinator, start, hreached, hmem⟩ :=
      ih hdirect ((meets_iff.mp hgrammar).2.1 next rfl) hkept hmem
    exact ⟨combinator, start, ⟨hreached.combinator_eq, hreached.search_eq⟩, hmem⟩
  | case3 scope combinator next kindTest pseudoTest position hcombinator hscope =>
    rw [tested.eq_3 _ _ _ _ _ _ hcombinator hscope] at hdirect
    obtain ⟨hmove, -⟩ := isMove_of_next_ne_none (meets_iff.mp hgrammar).1 hdirect
    obtain ⟨behind, hbehind⟩ := Option.ne_none_iff_exists'.mp hdirect
    obtain rfl : next = some behind := hbehind
    rcases combinator with _ | combinator
    · rcases scope with _ | path
      · simp at hmove
      · exact absurd rfl (hscope path behind rfl rfl)
    · exact absurd rfl (hcombinator combinator behind rfl)

/-! ### Queries -/

/-- The last link of every alternative meets what is demanded of the query. -/
theorem Chain.final_meets {demands : Demands} {query : Query}
    (h : Chain.allMeet demands query = true) {chain : Chain} (hchain : chain ∈ query) :
    chain.final.meets demands = true := by
  have hmeets : chain.meets demands = true := by
    induction query with
    | nil => cases hchain
    | cons first others ih =>
      obtain ⟨hfirst, hothers⟩ := Bool.and_eq_true_iff.mp h
      rcases List.mem_cons.mp hchain with rfl | hchain
      · exact hfirst
      · exact ih hothers hchain
  clear h hchain
  induction chain using Chain.final.induct with
  | case1 selector => exact hmeets
  | case2 selector rest ih => exact ih (Bool.and_eq_true_iff.mp hmeets).2

/-- **What a query that was read from a text finds was accepted by the last link of an alternative
if that is direct.** If it is not, it made no test and found all that its combinator leads to. -/
theorem Query.accepts_of_mem_search {text : String} {query : Query}
    (hread : ofText text = .ok query)
    {root : ν} {found : List ν} (h : query.search t options (.node root) = .ok found) {n : ν}
    (hn : n ∈ found) :
    ∃ chain ∈ query,
      (chain.final.IsDirect ∧ chain.final.innermost.Accepts t n) ∨
      (¬ chain.final.IsDirect ∧ ∃ combinator start,
        chain.final.FindsReached t options combinator start ∧
          n ∈ t.reached combinator start) := by
  have hgrammar := (Bool.and_eq_true_iff.mp (isGrammatical_of_ofText hread)).2
  obtain ⟨chain, hchain, start, last, hlast, hmem⟩ := exists_of_mem_search h hn
  refine ⟨chain, hchain, ?_⟩
  by_cases hdirect : chain.final.IsDirect
  · have haccepts := Selector.tested_accepts_of_mem_search hlast hmem
    rw [(chain.final.tested_eq_innermost_iff).mpr hdirect] at haccepts
    exact .inl ⟨hdirect, haccepts⟩
  · have hmeets := Chain.final_meets hgrammar hchain
    exact .inr ⟨hdirect, Selector.exists_findsReached hdirect hmeets hlast hmem⟩

/-! ### A link that is not direct -/

/-- A node with one child of another kind. -/
def parentAndChild : Tree Bool where
  kind n := if n then "A" else "C"
  source _ := ""
  children n := if n then [.node false] else []
  siblings _ := []
  accessor _ _ := none
  literal _ := none
  isTransparent _ := false
  height n := if n then 1 else 0
  height_lt := by decide

/-- The children of the kind `C`. -/
def childQuery : Query :=
  [.last { combinator := some .child, next := some { kindTest := some ⟨"C", []⟩ } }]

/-- The child that a search for children of its kind finds. -/
theorem accepts_of_mem_search_child :
    Query.ofText "> .C" = .ok childQuery ∧
      childQuery.search parentAndChild {} (.node true) = .ok [false] ∧
      ∃ chain ∈ childQuery,
        (chain.final.IsDirect ∧ chain.final.innermost.Accepts parentAndChild false) ∨
        (¬ chain.final.IsDirect ∧ ∃ combinator start,
          chain.final.FindsReached parentAndChild {} combinator start ∧
            false ∈ parentAndChild.reached combinator start) := by
  have hread : Query.ofText "> .C" = .ok childQuery := by cbv
  have hsearch : childQuery.search parentAndChild {} (.node true) = .ok [false] := rfl
  exact ⟨hread, hsearch, Query.accepts_of_mem_search hread hsearch List.mem_cons_self⟩

/-- The grandchildren of the kind `B`, as one would read it. -/
def grandchildQuery : Query :=
  [.last {
    combinator := some .child
    next := some { combinator := some .child, next := some { kindTest := some ⟨"B", []⟩ } } }]

/-- Not everything that is found is accepted by a last link: the child found here is neither a
grandchild nor of the kind `B`. -/
theorem not_forall_accepts :
    ¬ ∀ (text : String) (query : Query) (ν : Type) (t : Tree ν) (options : Options) (root : ν)
        (found : List ν), Query.ofText text = .ok query →
        query.search t options (.node root) = .ok found →
        ∀ n ∈ found, ∃ chain ∈ query, chain.final.innermost.Accepts t n := by
  intro h
  have hread : Query.ofText "> > .B" = .ok grandchildQuery := by cbv
  have hsearch : grandchildQuery.search parentAndChild {} (.node true) = .ok [false] := rfl
  obtain ⟨chain, hchain, haccepts⟩ :=
    h _ _ _ parentAndChild {} true _ hread hsearch false List.mem_cons_self
  obtain rfl := List.mem_singleton.mp hchain
  exact absurd (haccepts.kind ⟨"B", []⟩ rfl) (by decide)

end TreeQuery
