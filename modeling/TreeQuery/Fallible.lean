/-!
# Lists taken from the left

A test of a node can fail, when a query asks for a comparison that makes no sense. Tests are
therefore run over lists **from left to right and no further than needed**: the first failure ends
the run, and so does the first element that settles the answer. The laws say what passing, keeping
and gathering mean where no test fails, that operations which agree on the elements of a list give
the same result, and that **what is gathered succeeds exactly when each part does**.

A reader takes something from the front of a list and leaves the rest. That it leaves less than
it was given is part of what it returns, which is why a reader may call itself on the rest.

## Main definitions and results

* `Parsed` — something read and the rest behind it, which is shorter.
* `Fallible.any`, `Fallible.all` — whether some or every element passes.
* `Fallible.first?` — the first element that passes.
* `Fallible.filter` — the elements that pass.
* `Fallible.gather` — the results of an operation that lists results, one after the other.
* `Fallible.gather_succeeds_iff`, `Fallible.gather_bind_gather_eq_ok_iff` — gathering part by part.
-/

namespace TreeQuery

/-! ### Readers -/

/-- Something read from the front of a list of units, and the units behind it, fewer than
`bound`. -/
structure Parsed (υ α : Type) (bound : Nat) where
  /-- What was read. -/
  value : α
  /-- The units behind. -/
  rest : List υ
  /-- Fewer units are left. -/
  rest_lt : rest.length < bound

namespace Parsed

variable {υ α β : Type} {bound : Nat}

/-- The same units read as something else. -/
def map (f : α → β) (parsed : Parsed υ α bound) : Parsed υ β bound :=
  ⟨f parsed.value, parsed.rest, parsed.rest_lt⟩

/-- What was read and what is left, as seen from further ahead. -/
def weaken {bound' : Nat} (parsed : Parsed υ α bound) (h : bound ≤ bound') : Parsed υ α bound' :=
  ⟨parsed.value, parsed.rest, Nat.lt_of_lt_of_le parsed.rest_lt h⟩

end Parsed

/-! ### Tests and searches -/

namespace Fallible

variable {α β ε : Type}

/-- Whether some element passes; elements behind it are not tested. -/
def any (test : α → Except ε Bool) : List α → Except ε Bool
  | [] => .ok false
  | a :: as => do if ← test a then return true else any test as

/-- Whether every element passes; elements behind one that does not are not tested. -/
def all (test : α → Except ε Bool) : List α → Except ε Bool
  | [] => .ok true
  | a :: as => do if ← test a then all test as else return false

/-- The first element that passes; elements behind it are not tested. -/
def first? (test : α → Except ε Bool) : List α → Except ε (Option α)
  | [] => .ok none
  | a :: as => do if ← test a then return some a else first? test as

/-- The elements that pass, in order. -/
def filter (test : α → Except ε Bool) : List α → Except ε (List α)
  | [] => .ok []
  | a :: as => do
    let passes ← test a
    let kept ← filter test as
    return if passes then a :: kept else kept

/-- What `find` lists for each element, in order. -/
def gather (find : α → Except ε (List β)) : List α → Except ε (List β)
  | [] => .ok []
  | a :: as => do
    let found ← find a
    let others ← gather find as
    return found ++ others

/-- A sequence succeeds when both of its steps do. -/
theorem bind_eq_ok {x : Except ε α} {f : α → Except ε β} {b : β} :
    (x >>= f) = .ok b ↔ ∃ a, x = .ok a ∧ f a = .ok b := by
  cases x with
  | error e => simp [bind, Except.bind]
  | ok a => simp [bind, Except.bind]

/-- A result that is made from another one. -/
theorem bind_ok_eq_ok {x : Except ε α} {f : α → β} {b : β} :
    (x >>= fun a => .ok (f a)) = .ok b ↔ ∃ a, x = .ok a ∧ f a = b := by
  simp only [bind_eq_ok, Except.ok.injEq]

/-- Two results in a row, and what is made from them. -/
theorem bind_bind_ok_eq_ok {γ : Type} {x : Except ε α} {y : Except ε β} {f : α → β → γ} {c : γ} :
    (x >>= fun a => y >>= fun b => .ok (f a b)) = .ok c ↔
      ∃ a b, x = .ok a ∧ y = .ok b ∧ f a b = c := by
  simp only [bind_eq_ok, Except.ok.injEq]
  constructor
  · rintro ⟨a, ha, b, hb, hc⟩
    exact ⟨a, b, ha, hb, hc⟩
  · rintro ⟨a, b, ha, hb, hc⟩
    exact ⟨a, ha, b, hb, hc⟩

/-! ### What is kept and gathered -/

variable {test : α → Except ε Bool} {find : α → Except ε (List β)} {as : List α}

/-- What is kept of a list: its first element if that passes, and what is kept of the others. -/
theorem filter_cons_eq_ok {a : α} {kept : List α} : filter test (a :: as) = .ok kept ↔
    ∃ passes others, test a = .ok passes ∧ filter test as = .ok others ∧
      (if passes then a :: others else others) = kept :=
  bind_bind_ok_eq_ok

/-- What is gathered from a list: what its first element gives, and then what the others give. -/
theorem gather_cons_eq_ok {a : α} {all : List β} : gather find (a :: as) = .ok all ↔
    ∃ found others, find a = .ok found ∧ gather find as = .ok others ∧ found ++ others = all :=
  bind_bind_ok_eq_ok

/-- All elements pass when each of them does. -/
theorem all_eq_ok_true : all test as = .ok true ↔ ∀ a ∈ as, test a = .ok true := by
  induction as with
  | nil => simp [all]
  | cons a as ih =>
    rw [all, bind_eq_ok, List.forall_mem_cons, ← ih]
    constructor
    · rintro ⟨passes, ha, hrest⟩
      cases passes with
      | false => cases hrest
      | true => exact ⟨ha, hrest⟩
    · rintro ⟨ha, hrest⟩
      exact ⟨true, ha, hrest⟩

/-- The elements that are kept are those that pass. -/
theorem mem_filter {kept : List α} (h : filter test as = .ok kept) {a : α} :
    a ∈ kept ↔ a ∈ as ∧ test a = .ok true := by
  induction as generalizing kept with
  | nil =>
    cases h
    simp
  | cons b as ih =>
    obtain ⟨passes, others, hb, hothers, rfl⟩ := filter_cons_eq_ok.mp h
    have ih := ih hothers
    cases passes with
    | false =>
      rw [if_neg (by simp), ih, List.mem_cons]
      constructor
      · rintro ⟨hmem, ha⟩
        exact ⟨.inr hmem, ha⟩
      · rintro ⟨rfl | hmem, ha⟩
        · cases hb.symm.trans ha
        · exact ⟨hmem, ha⟩
    | true =>
      rw [if_pos rfl, List.mem_cons, ih, List.mem_cons]
      constructor
      · rintro (rfl | ⟨hmem, ha⟩)
        · exact ⟨.inl rfl, hb⟩
        · exact ⟨.inr hmem, ha⟩
      · rintro ⟨rfl | hmem, ha⟩
        · exact .inl rfl
        · exact .inr ⟨hmem, ha⟩

/-- The first element that passes does pass. -/
theorem of_first?_eq_some {a : α} (h : first? test as = .ok (some a)) :
    a ∈ as ∧ test a = .ok true := by
  induction as with
  | nil => cases h
  | cons b as ih =>
    obtain ⟨passes, hb, hrest⟩ := bind_eq_ok.mp h
    cases passes with
    | false =>
      obtain ⟨hmem, ha⟩ := ih hrest
      exact ⟨List.mem_cons_of_mem b hmem, ha⟩
    | true =>
      cases hrest
      exact ⟨List.mem_cons_self, hb⟩

/-- Whether some element passes is whether there is a first one that does. -/
theorem any_eq_isSome_first? (test : α → Except ε Bool) (as : List α) :
    any test as = first? test as >>= fun hit => .ok hit.isSome := by
  induction as with
  | nil => rfl
  | cons a as ih =>
    rw [any, first?, ih]
    cases test a with
    | error error => rfl
    | ok passes => cases passes <;> rfl

/-- Some element passes if the answer is that one does. -/
theorem exists_of_any_eq_ok_true (h : any test as = .ok true) : ∃ a ∈ as, test a = .ok true := by
  rw [any_eq_isSome_first?] at h
  obtain ⟨hit, hhit, hsome⟩ := bind_ok_eq_ok.mp h
  obtain ⟨a, rfl⟩ := Option.isSome_iff_exists.mp hsome
  exact ⟨a, of_first?_eq_some hhit⟩

/-- What is gathered was found for some element. -/
theorem exists_of_mem_gather {all : List β} (h : gather find as = .ok all) {b : β} (hb : b ∈ all) :
    ∃ a ∈ as, ∃ found, find a = .ok found ∧ b ∈ found := by
  induction as generalizing all with
  | nil =>
    cases h
    cases hb
  | cons a as ih =>
    obtain ⟨found, others, hfound, hothers, rfl⟩ := gather_cons_eq_ok.mp h
    rcases List.mem_append.mp hb with hb | hb
    · exact ⟨a, List.mem_cons_self, found, hfound, hb⟩
    · obtain ⟨a', hmem, hexists⟩ := ih hothers hb
      exact ⟨a', List.mem_cons_of_mem a hmem, hexists⟩

/-- Elements that come from others are tested where they come from. -/
theorem all_map {test : β → Except ε Bool} (f : α → β) (as : List α) :
    all test (as.map f) = all (fun a => test (f a)) as := by
  induction as with
  | nil => rfl
  | cons a as ih => rw [List.map_cons, all, ih, all]

/-- Elements behind others are tested where all of those pass, and not otherwise. -/
theorem all_append (test : α → Except ε Bool) (as bs : List α) :
    (all test as = .ok true → all test (as ++ bs) = all test bs) ∧
      (all test as ≠ .ok true → all test (as ++ bs) = all test as) := by
  induction as with
  | nil => exact ⟨fun _ => rfl, fun h => absurd rfl h⟩
  | cons a as ih =>
    rw [List.cons_append, all, all]
    cases test a with
    | error error => exact ⟨fun h => (by cases h), fun _ => rfl⟩
    | ok passes =>
      cases passes with
      | false => exact ⟨fun h => (by cases h), fun _ => rfl⟩
      | true => exact ih

/-- All elements pass, or the first one that does not settles the answer. -/
theorem all_eq_first (test : α → Except ε Bool) (as : List α) :
    (∀ a ∈ as, test a = .ok true) ∧ all test as = .ok true ∨
      ∃ before a after, as = before ++ a :: after ∧ (∀ b ∈ before, test b = .ok true) ∧
        test a ≠ .ok true ∧ all test as = test a := by
  induction as with
  | nil => exact .inl ⟨List.forall_mem_nil _, rfl⟩
  | cons a as ih =>
    by_cases ha : test a = .ok true
    · have hrest : all test (a :: as) = all test as := by
        rw [all, ha]
        rfl
      rw [hrest]
      rcases ih with ⟨hall, hok⟩ | ⟨before, b, after, rfl, hbefore, hb, hsettled⟩
      · exact .inl ⟨List.forall_mem_cons.mpr ⟨ha, hall⟩, hok⟩
      · refine .inr ⟨a :: before, b, after, rfl, ?_, hb, hsettled⟩
        exact List.forall_mem_cons.mpr ⟨ha, hbefore⟩
    · refine .inr ⟨[], a, as, rfl, List.forall_mem_nil _, ha, ?_⟩
      rw [all]
      cases houtcome : test a with
      | error error => rfl
      | ok passes =>
        cases passes with
        | false => rfl
        | true => exact absurd houtcome ha

/-- Where every element finds its own list, those lists are gathered. -/
theorem gather_eq_ok {list : α → List β} (h : ∀ a ∈ as, find a = .ok (list a)) :
    gather find as = .ok (as.flatMap list) := by
  induction as with
  | nil => rfl
  | cons a as ih =>
    rw [List.forall_mem_cons] at h
    rw [gather, h.1, ih h.2, List.flatMap_cons]
    rfl

/-! ### Operations that agree -/

section Agreement

variable {test' : α → Except ε Bool} {find' : α → Except ε (List β)}

/-- Tests that agree on the elements agree on whether every element passes. -/
theorem all_congr (h : ∀ a ∈ as, test a = test' a) : all test as = all test' as := by
  induction as with
  | nil => rfl
  | cons a as ih =>
    rw [List.forall_mem_cons] at h
    rw [all, all, h.1, ih h.2]

/-- Tests that agree on the elements find the same first one. -/
theorem first?_congr (h : ∀ a ∈ as, test a = test' a) : first? test as = first? test' as := by
  induction as with
  | nil => rfl
  | cons a as ih =>
    rw [List.forall_mem_cons] at h
    rw [first?, first?, h.1, ih h.2]

/-- Tests that agree on the elements agree on whether some element passes. -/
theorem any_congr (h : ∀ a ∈ as, test a = test' a) : any test as = any test' as := by
  rw [any_eq_isSome_first?, any_eq_isSome_first?, first?_congr h]

/-- Tests that agree on the elements keep the same ones. -/
theorem filter_congr (h : ∀ a ∈ as, test a = test' a) : filter test as = filter test' as := by
  induction as with
  | nil => rfl
  | cons a as ih =>
    rw [List.forall_mem_cons] at h
    rw [filter, filter, h.1, ih h.2]

/-- Operations that agree on the elements gather the same results. -/
theorem gather_congr (h : ∀ a ∈ as, find a = find' a) : gather find as = gather find' as := by
  induction as with
  | nil => rfl
  | cons a as ih =>
    rw [List.forall_mem_cons] at h
    rw [gather, gather, h.1, ih h.2]

end Agreement

/-! ### A single element -/

/-- What is gathered from one element is what it gives. -/
theorem gather_singleton (find : α → Except ε (List β)) (a : α) : gather find [a] = find a := by
  rw [gather]
  cases find a with
  | error error => rfl
  | ok found => exact congrArg Except.ok (List.append_nil found)

/-- A single element decides whether every element passes. -/
theorem all_singleton (test : α → Except ε Bool) (a : α) : all test [a] = test a := by
  rw [all]
  cases test a with
  | error error => rfl
  | ok passes => cases passes <;> rfl

/-! ### Tests that do not fail -/

/-- Where no test fails, the elements that pass are kept. -/
theorem filter_eq_ok {passes : α → Bool} (h : ∀ a ∈ as, test a = .ok (passes a)) :
    filter test as = .ok (as.filter passes) := by
  induction as with
  | nil => rfl
  | cons a as ih =>
    rw [List.forall_mem_cons] at h
    rw [filter, h.1, ih h.2, List.filter_cons]
    rfl

/-- Where no test fails, the first element that passes is found. -/
theorem first?_eq_ok {passes : α → Bool} (h : ∀ a ∈ as, test a = .ok (passes a)) :
    first? test as = .ok (as.find? passes) := by
  induction as with
  | nil => rfl
  | cons a as ih =>
    rw [List.forall_mem_cons] at h
    rw [first?, h.1, ih h.2, List.find?_cons]
    cases passes a <;> rfl

/-- Where no test fails, some element passes or none. -/
theorem any_eq_ok {passes : α → Bool} (h : ∀ a ∈ as, test a = .ok (passes a)) :
    any test as = .ok (as.any passes) := by
  rw [any_eq_isSome_first?, first?_eq_ok h, ← List.isSome_find?]
  rfl

/-- Where no test fails, all elements pass or not. -/
theorem all_eq_ok {passes : α → Bool} (h : ∀ a ∈ as, test a = .ok (passes a)) :
    all test as = .ok (as.all passes) := by
  induction as with
  | nil => rfl
  | cons a as ih =>
    rw [List.forall_mem_cons] at h
    rw [all, h.1, ih h.2, List.all_cons]
    cases passes a <;> rfl

/-! ### Success -/

/-- The operation does not fail. -/
def Succeeds (x : Except ε α) : Prop := ∃ a, x = .ok a

/-- A result is a success. -/
theorem succeeds_ok (a : α) : Succeeds (.ok a : Except ε α) := ⟨a, rfl⟩

/-- An operation goes on after a success, and succeeds when what follows always does. -/
theorem Succeeds.bind {x : Except ε α} {f : α → Except ε β} (h : Succeeds x)
    (h' : ∀ a, Succeeds (f a)) : Succeeds (x >>= f) := by
  obtain ⟨a, rfl⟩ := h
  exact h' a

/-- Operations that do not fail have results. -/
theorem exists_results [Inhabited β] {f : α → Except ε β} {p : α → Prop}
    (h : ∀ a, p a → Succeeds (f a)) : ∃ result : α → β, ∀ a, p a → f a = .ok (result a) := by
  refine ⟨fun a => (f a).toOption.getD default, fun a ha => ?_⟩
  obtain ⟨b, hb⟩ := h a ha
  simp [hb, Except.toOption]

/-- Whether some element passes is told when no test fails. -/
theorem any_succeeds (h : ∀ a ∈ as, Succeeds (test a)) : Succeeds (any test as) := by
  obtain ⟨passes, hpasses⟩ := exists_results h
  exact ⟨_, any_eq_ok hpasses⟩

/-- Whether every element passes is told when no test fails. -/
theorem all_succeeds (h : ∀ a ∈ as, Succeeds (test a)) : Succeeds (all test as) := by
  obtain ⟨passes, hpasses⟩ := exists_results h
  exact ⟨_, all_eq_ok hpasses⟩

/-- Keeping the elements that pass succeeds when no test fails. -/
theorem filter_succeeds (h : ∀ a ∈ as, Succeeds (test a)) : Succeeds (filter test as) := by
  obtain ⟨passes, hpasses⟩ := exists_results h
  exact ⟨_, filter_eq_ok hpasses⟩

/-- Gathering succeeds when the operation fails at no element. -/
theorem gather_succeeds (h : ∀ a ∈ as, Succeeds (find a)) : Succeeds (gather find as) := by
  obtain ⟨list, hlist⟩ := exists_results h
  exact ⟨_, gather_eq_ok hlist⟩

/-- Gathering succeeds only if it does for every element. -/
theorem gather_succeeds_iff : Succeeds (gather find as) ↔ ∀ a ∈ as, Succeeds (find a) := by
  refine ⟨fun h => ?_, gather_succeeds⟩
  induction as with
  | nil => exact List.forall_mem_nil _
  | cons a as ih =>
    obtain ⟨all, hall⟩ := h
    obtain ⟨found, others, hfound, hothers, -⟩ := gather_cons_eq_ok.mp hall
    exact List.forall_mem_cons.mpr ⟨⟨found, hfound⟩, ih ⟨others, hothers⟩⟩

/-- What is gathered are the lists found for the elements. -/
theorem exists_found_of_gather_eq_ok {all : List β} (h : gather find as = .ok all) :
    ∃ found : α → List β, (∀ a ∈ as, find a = .ok (found a)) ∧ all = as.flatMap found := by
  obtain ⟨found, hfound⟩ := exists_results (gather_succeeds_iff.mp ⟨all, h⟩)
  exact ⟨found, hfound, Except.ok.inj (h.symm.trans (gather_eq_ok hfound))⟩

/-! ### Gathering in two steps -/

/-- Gathering from two lists in a row gathers from the first and then from the second. -/
theorem gather_append (find : α → Except ε (List β)) (as bs : List α) :
    gather find (as ++ bs) =
      gather find as >>= fun found => gather find bs >>= fun others => .ok (found ++ others) := by
  induction as with
  | nil =>
    change gather find bs = gather find bs >>= fun others => .ok others
    exact (bind_pure _).symm
  | cons a as ih =>
    rw [List.cons_append, gather, gather, ih]
    cases find a with
    | error error => rfl
    | ok found =>
      cases gather find as with
      | error error => rfl
      | ok more =>
        cases gather find bs with
        | error error => rfl
        | ok others => exact congrArg Except.ok (List.append_assoc found more others).symm

/-- What is gathered from two lists in a row is what the first gives and then what the second
gives. -/
theorem gather_append_eq_ok {as bs : List α} {all : List β} : gather find (as ++ bs) = .ok all ↔
    ∃ found others, gather find as = .ok found ∧ gather find bs = .ok others ∧
      found ++ others = all := by
  rw [gather_append, bind_bind_ok_eq_ok]

/-- **Gathering from what was gathered lists the same as doing both for one element after the
other.** Where something fails, the two may meet different errors first. -/
theorem gather_bind_gather_eq_ok_iff {γ : Type} {f : α → Except ε (List β)}
    {g : β → Except ε (List γ)} {all : List γ} :
    (gather f as >>= gather g) = .ok all ↔ gather (fun a => f a >>= gather g) as = .ok all := by
  induction as generalizing all with
  | nil => rfl
  | cons a as ih =>
    rw [gather_cons_eq_ok, bind_eq_ok]
    constructor
    · rintro ⟨starts, hstarts, hall⟩
      obtain ⟨found, others, hfound, hothers, rfl⟩ := gather_cons_eq_ok.mp hstarts
      obtain ⟨first, later, hfirst, hlater, heq⟩ := gather_append_eq_ok.mp hall
      have hbehind := ih.mp (bind_eq_ok.mpr ⟨others, hothers, hlater⟩)
      exact ⟨first, later, bind_eq_ok.mpr ⟨found, hfound, hfirst⟩, hbehind, heq⟩
    · rintro ⟨first, later, hstep, hbehind, heq⟩
      obtain ⟨found, hfound, hfirst⟩ := bind_eq_ok.mp hstep
      obtain ⟨others, hothers, hlater⟩ := bind_eq_ok.mp (ih.mpr hbehind)
      refine ⟨found ++ others, gather_cons_eq_ok.mpr ⟨found, others, hfound, hothers, rfl⟩, ?_⟩
      exact gather_append_eq_ok.mpr ⟨first, later, hfirst, hlater, heq⟩

end Fallible

end TreeQuery
