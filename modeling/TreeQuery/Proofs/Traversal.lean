import TreeQuery.Proofs.Query.FirstMatch

/-!
# What a traversal lists

A search walks through a tree once and carries along what it has found. What it lists is said
without a walk: the options fix the candidates and their order, and the test is made of one
candidate after the other. **The first failure is the result; otherwise all candidates that pass are
listed**, as often as they are candidates. Where one match is enough, only the candidates up to the
first one that passes count.

A compound that begins with a kind and a rule set search in this way, each with its own test of a
node.

## Main definitions and results

* `Fallible.ListsPassing`, `Fallible.ListsFirst` — the results of testing a row of elements.
* `Tree.Lists` — the results of testing the candidates of a search.
* `Tree.search_eq_iff`: **a search has just that result**.
* `search_eq_iff_lists`: compounds and rule sets have it, and `:first-child` is the first match.
-/

namespace TreeQuery

/-! ### Testing a row of elements -/

namespace Fallible

variable {α ε : Type} {test : α → Except ε Bool}

/-- Whether an element passes. One whose test fails does not. -/
def accepts (test : α → Except ε Bool) (a : α) : Bool :=
  match test a with
  | .ok passes => passes
  | .error _ => false

/-- A test that succeeds says whether the element passes. -/
theorem eq_ok_accepts {a : α} (h : Succeeds (test a)) : test a = .ok (accepts test a) := by
  obtain ⟨passes, hpasses⟩ := h
  rw [accepts, hpasses]

/-- The result of testing all elements from left to right. -/
inductive ListsPassing (test : α → Except ε Bool) : List α → Except ε (List α) → Prop where
  /-- The first failure is the result. -/
  | fails {before after : List α} {a : α} {error : ε} : (∀ b ∈ before, Succeeds (test b)) →
      test a = .error error → ListsPassing test (before ++ a :: after) (.error error)
  /-- Without a failure the elements that pass are listed. -/
  | passing {as : List α} : (∀ a ∈ as, Succeeds (test a)) →
      ListsPassing test as (.ok (as.filter (accepts test)))

/-- The result of testing elements from left to right up to the first one that passes. -/
inductive ListsFirst (test : α → Except ε Bool) : List α → Except ε (List α) → Prop where
  /-- A failure before a hit is the result. -/
  | fails {before after : List α} {a : α} {error : ε} : (∀ b ∈ before, test b = .ok false) →
      test a = .error error → ListsFirst test (before ++ a :: after) (.error error)
  /-- The first hit is listed alone. -/
  | hit {before after : List α} {a : α} : (∀ b ∈ before, test b = .ok false) →
      test a = .ok true → ListsFirst test (before ++ a :: after) (.ok [a])
  /-- Without a failure and a hit nothing is listed. -/
  | nothing {as : List α} : (∀ a ∈ as, test a = .ok false) → ListsFirst test as (.ok [])

/-- One more element that does not fail leaves a failure behind it the result. -/
theorem ListsPassing.cons {a : α} {as : List α} {result : Except ε (List α)} {passes : Bool}
    (ha : test a = .ok passes) (h : ListsPassing test as result) :
    ListsPassing test (a :: as)
      (result >>= fun kept => .ok (if passes then a :: kept else kept)) := by
  have hsucceeds : Succeeds (test a) := ⟨passes, ha⟩
  cases h with
  | fails hbefore herror => exact .fails (List.forall_mem_cons.mpr ⟨hsucceeds, hbefore⟩) herror
  | passing has =>
    have hall := ListsPassing.passing (List.forall_mem_cons.mpr ⟨hsucceeds, has⟩)
    have haccepts : accepts test a = passes := by rw [accepts, ha]
    rw [List.filter_cons, haccepts] at hall
    exact hall

/-- One more element that does not pass changes no result. -/
theorem ListsFirst.cons {a : α} {as : List α} {result : Except ε (List α)}
    (ha : test a = .ok false) (h : ListsFirst test as result) :
    ListsFirst test (a :: as) result := by
  cases h with
  | fails hbefore herror => exact .fails (List.forall_mem_cons.mpr ⟨ha, hbefore⟩) herror
  | hit hbefore hhit => exact .hit (List.forall_mem_cons.mpr ⟨ha, hbefore⟩) hhit
  | nothing has => exact .nothing (List.forall_mem_cons.mpr ⟨ha, has⟩)

/-- Keeping the elements that pass is the result of testing them all from left to right. -/
theorem listsPassing_filter (test : α → Except ε Bool) (as : List α) :
    ListsPassing test as (filter test as) := by
  induction as with
  | nil => exact .passing (by simp)
  | cons a as ih =>
    rw [filter]
    cases ha : test a with
    | error error =>
      change ListsPassing test ([] ++ a :: as) (.error error)
      exact .fails (by simp) ha
    | ok passes => exact ih.cons ha

/-- Looking for the first element that passes is the result of testing them up to there. -/
theorem listsFirst_first? (test : α → Except ε Bool) (as : List α) :
    ListsFirst test as (first? test as >>= fun hit => .ok hit.toList) := by
  induction as with
  | nil => exact .nothing (by simp)
  | cons a as ih =>
    rw [first?]
    cases ha : test a with
    | error error =>
      change ListsFirst test ([] ++ a :: as) (.error error)
      exact .fails (by simp) ha
    | ok passes =>
      cases passes with
      | false => exact ih.cons ha
      | true =>
        change ListsFirst test ([] ++ a :: as) (.ok [a])
        exact .hit (by simp) ha

/-- Elements whose tests succeed do not keep a failure behind them from being the result. -/
theorem filter_append_of_error {before after : List α} {a : α} {error : ε}
    (hbefore : ∀ b ∈ before, Succeeds (test b)) (ha : test a = .error error) :
    filter test (before ++ a :: after) = .error error := by
  induction before with
  | nil =>
    rw [List.nil_append, filter, ha]
    rfl
  | cons b before ih =>
    obtain ⟨hb, hrest⟩ := List.forall_mem_cons.mp hbefore
    rw [List.cons_append, filter, eq_ok_accepts hb, ih hrest]
    rfl

/-- Elements that do not pass are passed over. -/
theorem first?_append_of_forall_ok_false {before : List α} (as : List α)
    (hbefore : ∀ b ∈ before, test b = .ok false) : first? test (before ++ as) = first? test as := by
  induction before with
  | nil => rfl
  | cons b before ih =>
    obtain ⟨hb, hrest⟩ := List.forall_mem_cons.mp hbefore
    rw [List.cons_append, first?, hb]
    exact ih hrest

/-- **Filtering gives the first failure, or else all elements that pass.** -/
theorem filter_eq_iff {as : List α} {result : Except ε (List α)} :
    filter test as = result ↔ ListsPassing test as result := by
  constructor
  · rintro rfl
    exact listsPassing_filter test as
  · intro h
    cases h with
    | fails hbefore ha => exact filter_append_of_error hbefore ha
    | passing has => exact filter_eq_ok fun a ha => eq_ok_accepts (has a ha)

/-- **A search for the first element that passes gives a failure before it, or else it alone.** -/
theorem first?_eq_iff {as : List α} {result : Except ε (List α)} :
    (first? test as >>= fun hit => .ok hit.toList) = result ↔ ListsFirst test as result := by
  constructor
  · rintro rfl
    exact listsFirst_first? test as
  · intro h
    cases h with
    | fails hbefore ha =>
      rw [first?_append_of_forall_ok_false _ hbefore, first?, ha]
      rfl
    | hit hbefore ha =>
      rw [first?_append_of_forall_ok_false _ hbefore, first?, ha]
      rfl
    | nothing has =>
      rw [← List.append_nil as, first?_append_of_forall_ok_false [] has]
      rfl

end Fallible

open Fallible

variable {ν : Type} {t : Tree ν} {options : Options}

/-! ### Searching a tree -/

/-- The result of testing the candidates of a search in their order: all of them, or up to the first
one that passes where one match is enough. -/
def Tree.Lists {ε : Type} (t : Tree ν) (options : Options) (test : ν → Except ε Bool) (n : ν)
    (result : Except ε (List ν)) : Prop :=
  if options.stopAtFirstMatch then ListsFirst test (t.candidates options n) result
  else ListsPassing test (t.candidates options n) result

/-- **A search tests its candidates in order and has the result of that.** -/
theorem Tree.search_eq_iff {ε : Type} {test : ν → Except ε Bool} {n : ν}
    {result : Except ε (List ν)} :
    t.search options test n = result ↔ t.Lists options test n result := by
  rw [search_eq, Lists]
  split
  · exact first?_eq_iff
  · exact filter_eq_iff

/-- **A search that stops lists the first of the nodes** that the same search lists, whether that
one stops or not. -/
theorem Tree.search_eq_stopping {test : ν → Except MatchError Bool} {n : ν} {all : List ν}
    (h : t.search options test n = .ok all) :
    t.search options.stopping test n = .ok (all.take 1) := by
  cases hstop : options.stopAtFirstMatch with
  | false => exact search_firstOf hstop test n all h
  | true =>
    have hsame : options.stopping = options := by rw [Options.stopping, ← hstop]
    have hfirst := h
    rw [search_eq, if_pos hstop] at hfirst
    obtain ⟨hit, -, rfl⟩ := bind_ok_eq_ok.mp hfirst
    rw [hsame, h, List.take_of_length_le Option.length_toList_le]

/-! ### Compounds and rule sets -/

/-- The compound of a kind with attributes and a pseudo class. -/
def KindTest.compound (kindTest : KindTest) (pseudoTest : Option PseudoTest) : Selector :=
  { kindTest := some kindTest, pseudoTest }

/-- The same compound with a position. -/
def KindTest.compoundAt (kindTest : KindTest) (pseudoTest : Option PseudoTest)
    (position : Position) :
    Selector :=
  { kindTest.compound pseudoTest with position := some position }

/-- A compound makes one search with its test. -/
theorem KindTest.search_compound (kindTest : KindTest) (pseudoTest : Option PseudoTest) (n : ν) :
    (kindTest.compound pseudoTest).search t options (.node n) =
      t.search options (fun m => (kindTest.compound pseudoTest).holds t m m) n := by
  rw [Selector.search_eq rfl rfl]
  exact (gather_singleton _ n).trans (bind_pure _)

/-- A position picks from what the compound finds without it. -/
theorem KindTest.search_compoundAt (kindTest : KindTest) (pseudoTest : Option PseudoTest)
    (position : Position) (n : ν) :
    (kindTest.compoundAt pseudoTest position).search t options (.node n) =
      (kindTest.compound pseudoTest).search t options (.node n) >>= fun found =>
        .ok (Position.keep (some position) found) := by
  rw [search_compound, Selector.search_eq rfl rfl]
  refine (gather_singleton _ n).trans ?_
  rw [compoundAt, Selector.passing_position]
  rfl

/-- **Compounds of a kind and rule sets list what their tests of the candidates come to.** A
compound with `:first-child` finds the first match, as the same compound does without it when one
match is enough. -/
theorem search_eq_iff_lists (t : Tree ν) (options : Options) (n : ν) :
    (∀ kindTest pseudoTest result,
      (KindTest.compound kindTest pseudoTest).search t options (.node n) = result ↔
        t.Lists options (fun m => (kindTest.compound pseudoTest).holds t m m) n result) ∧
    (∀ (ruleSet : RuleSet) result,
      ruleSet.search t options (.node n) = result ↔
        t.Lists options (ruleSet.holds t) n result) ∧
    ∀ kindTest pseudoTest found,
      (KindTest.compoundAt kindTest pseudoTest .first).search t options (.node n) = .ok found →
        (kindTest.compound pseudoTest).search t { options with stopAtFirstMatch := true }
            (.node n) =
          .ok found := by
  refine ⟨fun kindTest pseudoTest result => ?_, fun ruleSet result => ?_,
    fun kindTest pseudoTest found hfound => ?_⟩
  · rw [KindTest.search_compound]
    exact Tree.search_eq_iff
  · have hsearch : ruleSet.search t options (.node n) = t.search options (ruleSet.holds t) n :=
      gather_singleton _ n
    rw [hsearch]
    exact Tree.search_eq_iff
  · rw [KindTest.search_compoundAt] at hfound
    obtain ⟨all, hall, heq⟩ := bind_eq_ok.mp hfound
    obtain rfl := Except.ok.inj heq
    rw [KindTest.search_compound] at hall ⊢
    exact Tree.search_eq_stopping hall

/-- The kind of lists. -/
def listKind : KindTest := ⟨"list", []⟩

/-- Something that is filled holds an item. -/
def isFilled : PseudoTest := ⟨.has, [.last { kindTest := some ⟨"item", []⟩ }]⟩

/-- The first list is empty, so that the second one is the first match. -/
theorem search_eq_iff_lists_filledLists :
    (listKind.compoundAt isFilled .first).search twoLists.tree {} (.node 3) = .ok [2] ∧
      (listKind.compound isFilled).search twoLists.tree { stopAtFirstMatch := true } (.node 3) =
        .ok [2] := by
  have hfirst : (listKind.compoundAt isFilled .first).search twoLists.tree {} (.node 3) =
      .ok [2] := by cbv
  exact ⟨hfirst, (search_eq_iff_lists twoLists.tree {} 3).2.2 _ _ _ hfirst⟩

end TreeQuery
