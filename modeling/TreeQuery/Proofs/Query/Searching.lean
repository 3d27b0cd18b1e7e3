import TreeQuery.Fallible
import TreeQuery.Query.Search

/-!
# Searching with a compound

A selector without a move searches from each node of a slot, and what it finds has passed its
tests. Where no test fails, **a search keeps the candidates that pass, or the first of them**.

## Main definitions and results

* `Selector.Accepts` — a node passes the tests of a selector.
* `Tree.matching` — the candidates that a search keeps where no test fails.
* `Selector.holds_eq_ok_true`: the test of a selector succeeds on the nodes that it accepts.
* `Selector.Finds` — how a selector comes to find a node.
* `Selector.finds_of_mem_search`: every node that it finds is found so.
-/

namespace TreeQuery

variable {ν : Type} {t : Tree ν} {options : Options}

/-! ### Accepting nodes -/

/-- A node passes the tests of a selector: it has the kind, every attribute holds of it with
templates filled in from it, and the pseudo class holds of it. -/
structure Selector.Accepts (t : Tree ν) (selector : Selector) (n : ν) : Prop where
  /-- The node has the kind. -/
  kind : ∀ test ∈ selector.kindTest, t.kind n = test.kind
  /-- Every attribute holds. -/
  attributes : ∀ test ∈ selector.kindTest, ∀ a ∈ test.attributes, a.holds t n n = .ok true
  /-- The pseudo class holds. -/
  pseudo : ∀ test ∈ selector.pseudoTest, test.holds t n = .ok true

/-- A test by kind succeeds on the nodes of the kind of which every attribute holds. -/
theorem KindTest.holds_eq_ok_true {test : KindTest} {base n : ν} :
    test.holds t base n = .ok true ↔
      t.kind n = test.kind ∧ ∀ a ∈ test.attributes, a.holds t base n = .ok true := by
  obtain ⟨kind, attributes⟩ := test
  rw [holds]
  split
  · rename_i hkind
    rw [Attribute.allHold_eq_all, Fallible.all_eq_ok_true]
    simp [hkind]
  · rename_i hkind
    simp [hkind]

/-- A test that may be missing succeeds if there is none, or if it succeeds. -/
theorem elim_eq_ok_true {α : Type} {x : Option α} {test : α → Except MatchError Bool} :
    x.elim (.ok true) test = .ok true ↔ ∀ a ∈ x, test a = .ok true := by
  cases x <;> simp

/-- A node is tested by kind first, and then by what can be found below it. -/
theorem Selector.holds_eq (selector : Selector) (base n : ν) :
    selector.holds t base n =
      (selector.kindTest.elim (.ok true) fun test => test.holds t base n) >>= fun passes =>
        if passes then selector.pseudoTest.elim (.ok true) fun test => test.holds t n
        else .ok false := by
  obtain ⟨scope, combinator, next, kindTest, pseudoTest, position⟩ := selector
  cases kindTest <;> cases pseudoTest <;> rfl

/-- The test of a node succeeds exactly on the nodes that are accepted. -/
theorem Selector.holds_eq_ok_true {selector : Selector} {n : ν} :
    selector.holds t n n = .ok true ↔ selector.Accepts t n := by
  rw [holds_eq, Fallible.bind_eq_ok]
  constructor
  · rintro ⟨passes, hkind, hpseudo⟩
    cases passes with
    | false => cases hpseudo
    | true =>
      have hkinds := fun test htest =>
        KindTest.holds_eq_ok_true.mp (elim_eq_ok_true.mp hkind test htest)
      exact ⟨fun test htest => (hkinds test htest).1, fun test htest => (hkinds test htest).2,
        elim_eq_ok_true.mp hpseudo⟩
  · rintro ⟨hkind, hattributes, hpseudo⟩
    refine ⟨true, elim_eq_ok_true.mpr fun test htest => ?_, elim_eq_ok_true.mpr hpseudo⟩
    exact KindTest.holds_eq_ok_true.mpr ⟨hkind test htest, hattributes test htest⟩

/-! ### Searching a tree -/

/-- What a search finds is a candidate that passes. -/
theorem Tree.of_mem_search {ε : Type} {test : ν → Except ε Bool} {n m : ν} {found : List ν}
    (h : t.search options test n = .ok found) (hm : m ∈ found) :
    m ∈ t.candidates options n ∧ test m = .ok true := by
  rw [search_eq] at h
  split at h
  · obtain ⟨hit, hhit, rfl⟩ := Fallible.bind_ok_eq_ok.mp h
    obtain rfl := Option.mem_toList.mp hm
    exact Fallible.of_first?_eq_some hhit
  · exact (Fallible.mem_filter h).mp hm

/-- The candidates that pass, or only the first of them. -/
def Tree.matching (t : Tree ν) (options : Options) (passes : ν → Bool) (n : ν) : List ν :=
  if options.stopAtFirstMatch then ((t.candidates options n).find? passes).toList
  else (t.candidates options n).filter passes

/-- Where no test fails, neither does the search. -/
theorem Tree.search_eq_matching {ε : Type} {test : ν → Except ε Bool} {passes : ν → Bool}
    (h : ∀ n, test n = .ok (passes n)) (n : ν) :
    t.search options test n = .ok (t.matching options passes n) := by
  rw [search_eq, matching]
  split
  · rw [Fallible.first?_eq_ok fun m _ => h m]
    rfl
  · exact Fallible.filter_eq_ok fun m _ => h m

/-! ### Searching with a selector -/

/-- The nodes that pass a selector without a move, of those that it tests from a node: without a
kind it tests that node alone. -/
def Selector.passing (t : Tree ν) (options : Options) (selector : Selector) (m : ν) :
    Except MatchError (List ν) :=
  if selector.kindTest.isSome then t.search options (fun n => selector.holds t n n) m
  else if options.includingSelf then Fallible.filter (fun n => selector.holds t n n) [m]
  else .ok []

/-- A selector without a move searches from each node of the slot. -/
theorem Selector.search_eq {selector : Selector} (hscope : selector.scope = none)
    (hcombinator : selector.combinator = none) (slot : Slot ν) :
    selector.search t options slot =
      Fallible.gather (fun m => selector.passing t options m >>= fun passed =>
        .ok (Position.keep selector.position passed)) slot.nodes := by
  obtain ⟨scope, combinator, next, kindTest, pseudoTest, position⟩ := selector
  obtain rfl : scope = none := hscope
  obtain rfl : combinator = none := hcombinator
  cases kindTest <;> cases pseudoTest <;> rfl

/-- A position keeps none but the nodes that were found. -/
theorem Position.mem_of_mem_keep {position : Option Position} {found : List ν} {n : ν}
    (h : n ∈ Position.keep position found) : n ∈ found := by
  cases position with
  | none => exact h
  | some position =>
    cases position with
    | first => exact List.mem_of_mem_take h
    | last => exact List.mem_of_getLast? (Option.mem_toList.mp h)

/-- What passes a selector without a move is the node that is searched from or a candidate, and the
selector holds of it. -/
theorem Selector.of_mem_passing {selector : Selector} {n m : ν} {passed : List ν}
    (h : selector.passing t options n = .ok passed) (hm : m ∈ passed) :
    (m = n ∨ m ∈ t.candidates options n) ∧ selector.holds t m m = .ok true := by
  unfold passing at h
  split at h
  · obtain ⟨hcandidate, hholds⟩ := Tree.of_mem_search h hm
    exact ⟨.inr hcandidate, hholds⟩
  · split at h
    · obtain ⟨hself, hholds⟩ := (Fallible.mem_filter h).mp hm
      exact ⟨.inl (List.mem_singleton.mp hself), hholds⟩
    · cases h
      cases hm

/-! ### What a selector finds -/

/-- How a selector comes to find a node from a slot. -/
inductive Selector.Finds (t : Tree ν) (options : Options) : Selector → Slot ν → ν → Prop where
  /-- Its combinator leads to the node, and the selector behind it holds of it. -/
  | byCombinator {selector next : Selector} {combinator : Combinator} {slot : Slot ν} {n : ν} :
      selector.combinator = some combinator → selector.next = some next →
      n ∈ t.reached combinator slot → next.holds t n n = .ok true → Finds t options selector slot n
  /-- The selector behind its scope finds the node from where the path leads to. -/
  | byScope {selector next : Selector} {path : KeyPath} {slot : Slot ν} {m n : ν} :
      selector.combinator = none → selector.scope = some path → selector.next = some next →
      m ∈ slot.nodes → Finds t options next (t.resolve m path) n → Finds t options selector slot n
  /-- Without a move the node is one of the slot or a candidate below one, and the selector holds of
  it. -/
  | byTest {selector : Selector} {slot : Slot ν} {m n : ν} :
      selector.combinator = none → selector.scope = none → m ∈ slot.nodes →
      n = m ∨ n ∈ t.candidates options m → selector.holds t n n = .ok true →
      Finds t options selector slot n

/-- **Every node that a selector finds is found in one of these ways.** -/
theorem Selector.finds_of_mem_search : ∀ (selector : Selector) {slot : Slot ν} {found : List ν},
    selector.search t options slot = .ok found → ∀ {n : ν}, n ∈ found →
      selector.Finds t options slot n
  | ⟨_, some combinator, some next, _, _, _⟩, slot, found, h, n, hn => by
    rw [search] at h
    obtain ⟨passed, hpassed, rfl⟩ := Fallible.bind_ok_eq_ok.mp h
    obtain ⟨hreached, hholds⟩ := (Fallible.mem_filter hpassed).mp (Position.mem_of_mem_keep hn)
    exact .byCombinator rfl rfl hreached hholds
  | ⟨some path, none, some next, _, _, _⟩, slot, found, h, n, hn => by
    rw [search] at h
    obtain ⟨m, hm, kept, hkept, hn⟩ := Fallible.exists_of_mem_gather h hn
    exact .byScope rfl rfl rfl hm (Selector.finds_of_mem_search next hkept hn)
  | ⟨none, none, _, _, _, _⟩, slot, found, h, n, hn => by
    rw [search_eq rfl rfl] at h
    obtain ⟨m, hm, kept, hkept, hn⟩ := Fallible.exists_of_mem_gather h hn
    obtain ⟨passed, hpassed, rfl⟩ := Fallible.bind_ok_eq_ok.mp hkept
    obtain ⟨hcandidate, hholds⟩ := of_mem_passing hpassed (Position.mem_of_mem_keep hn)
    exact .byTest rfl rfl hm hcandidate hholds
  | ⟨_, some _, none, _, _, _⟩, _, _, h, _, hn | ⟨some _, none, none, _, _, _⟩, _, _, h, _, hn => by
    cases h
    cases hn
termination_by structural selector => selector

end TreeQuery
