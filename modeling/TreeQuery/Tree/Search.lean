import TreeQuery.Fallible
import TreeQuery.Tree.Basic

/-!
# Searching below a node

A search tests nodes at and below a starting node and lists those that pass. Its options say
which nodes are candidates and whether one hit is enough.

It is **one traversal that carries along what was found**: the descendants are visited one by one, a
test that fails ends the walk, and so does a hit where one is enough, and no node behind is even
looked for.

## Main definitions and results

* `Tree.walk` — visits the descendants of a node until a visit stops it.
* `Tree.walk_eq_foldlM` — a walk is the fold of its visits over the descendants in order.
* `Options` — the options of a search.
* `Tree.candidates` — the nodes that a search tests, in order.
* `Tree.search` — the search.
* `Tree.search_eq` — a search keeps the candidates that pass, or the first of them.
-/

namespace TreeQuery

/-! ### Walking through the descendants -/

namespace Tree

variable {ν σ β : Type}

/-- Visits the descendants of `n` in pre-order. `visit` answers the next state, or an error to
stop at once. -/
def walk (t : Tree ν) (visit : σ → ν → Except β σ) (n : ν) (state : σ) : Except β σ :=
  (t.childNodes n).attach.foldlM (fun s c => do walk t visit c.1 (← visit s c.1)) state
termination_by t.height n
decreasing_by exact t.height_lt_of_mem_childNodes c.2

/-- A walk visits each child and then walks below it, as long as no visit stops it. -/
theorem walk_eq (t : Tree ν) (visit : σ → ν → Except β σ) (n : ν) (state : σ) :
    t.walk visit n state =
      (t.childNodes n).foldlM (fun s c => do t.walk visit c (← visit s c)) state := by
  rw [walk, List.foldlM_subtype (g := fun s c => do t.walk visit c (← visit s c)) fun _ _ _ => rfl,
    List.unattach_attach]

/-- A walk is **the fold of its visits over the descendants**, stopped where a visit stops it. -/
theorem walk_eq_foldlM (t : Tree ν) (visit : σ → ν → Except β σ) (n : ν) (state : σ) :
    t.walk visit n state = (t.descendants n).foldlM visit state := by
  induction hn : t.height n using Nat.strongRecOn generalizing n state with
  | ind height ih =>
    subst hn
    rw [walk_eq, descendants_eq]
    have below : ∀ c ∈ t.childNodes n, ∀ s, t.walk visit c s = (t.descendants c).foldlM visit s :=
      fun c hc s => ih _ (t.height_lt_of_mem_childNodes hc) c s rfl
    generalize t.childNodes n = cs at below
    induction cs generalizing state with
    | nil => rfl
    | cons c cs ihs =>
      rw [List.foldlM_cons, List.flatMap_cons, List.cons_append, List.foldlM_cons,
        bind_assoc]
      congr 1
      funext s
      rw [List.foldlM_append, below c List.mem_cons_self]
      congr 1
      funext s'
      exact ihs s' fun d hd => below d (List.mem_cons_of_mem _ hd)

end Tree

/-! ### Searches -/

/-- What a search looks at. -/
structure Options where
  /-- Whether the starting node is tested. -/
  includingSelf : Bool := true
  /-- Whether all nodes below are tested, not the children alone. -/
  recursive : Bool := true
  /-- Whether the search ends with the first hit. -/
  stopAtFirstMatch : Bool := false
  deriving DecidableEq

namespace Tree

variable {ν ε : Type}

/-- The nodes that a search from a node tests, in order. **A search that is not recursive tests
either the starting node or its children, never both.** -/
def candidates (t : Tree ν) (options : Options) (n : ν) : List ν :=
  match options.includingSelf, options.recursive with
  | true, true => n :: t.descendants n
  | true, false => [n]
  | false, true => t.descendants n
  | false, false => t.childNodes n

/-- Why a traversal ends before its last node. -/
inductive Halt (ν ε : Type) where
  /-- A node passed and one is enough. The nodes found are listed from the latest on. -/
  | enough (found : List ν)
  /-- A test failed. -/
  | failed (error : ε)

/-- Tests a node and puts it before the nodes found so far if it passes. -/
def visit (options : Options) (test : ν → Except ε Bool) (found : List ν) (n : ν) :
    Except (Halt ν ε) (List ν) :=
  match test n with
  | .ok true =>
    if options.stopAtFirstMatch then .error (.enough (n :: found)) else .ok (n :: found)
  | .ok false => .ok found
  | .error error => .error (.failed error)

/-- Visits the nodes that the options ask for. -/
def traverse (t : Tree ν) (options : Options) (test : ν → Except ε Bool) (n : ν) :
    Except (Halt ν ε) (List ν) :=
  match options.includingSelf, options.recursive with
  | true, true => do t.walk (visit options test) n (← visit options test [] n)
  | true, false => visit options test [] n
  | false, true => t.walk (visit options test) n []
  | false, false => (t.childNodes n).foldlM (visit options test) []

/-- The nodes that a traversal has found when it ends, in the order of the visits. -/
def collected : Except (Halt ν ε) (List ν) → Except ε (List ν)
  | .ok found => .ok found.reverse
  | .error (.enough found) => .ok found.reverse
  | .error (.failed error) => .error error

/-- The candidates that pass, or only the first of them. -/
def search (t : Tree ν) (options : Options) (test : ν → Except ε Bool) (n : ν) :
    Except ε (List ν) :=
  collected (t.traverse options test n)

/-- A traversal is **the fold of its visits over the candidates**. -/
theorem traverse_eq_foldlM (t : Tree ν) (options : Options) (test : ν → Except ε Bool) (n : ν) :
    t.traverse options test n = (t.candidates options n).foldlM (visit options test) [] := by
  unfold traverse candidates
  split
  · rw [List.foldlM_cons]
    simp only [walk_eq_foldlM]
  · rw [List.foldlM_cons]
    exact (bind_pure _).symm
  · rw [walk_eq_foldlM]
  · rfl

/-- Where one hit is not enough, every node that passes is added to those found. -/
theorem collected_foldlM (options : Options) (hstop : options.stopAtFirstMatch = false)
    (test : ν → Except ε Bool) (ns found : List ν) :
    collected (ns.foldlM (visit options test) found) =
      Fallible.filter test ns >>= fun kept => .ok (found.reverse ++ kept) := by
  induction ns generalizing found with
  | nil => exact congrArg Except.ok (List.append_nil _).symm
  | cons n ns ih =>
    rw [List.foldlM_cons, visit, Fallible.filter]
    cases test n with
    | error error => rfl
    | ok passes =>
      cases passes with
      | false =>
        refine (ih found).trans ?_
        cases Fallible.filter test ns <;> rfl
      | true =>
        rw [hstop]
        refine (ih (n :: found)).trans ?_
        cases Fallible.filter test ns with
        | error error => rfl
        | ok kept => exact congrArg Except.ok (by simp)

/-- Where one hit is enough, the first node that passes is added and ends the traversal. -/
theorem collected_foldlM_stopping (options : Options) (hstop : options.stopAtFirstMatch = true)
    (test : ν → Except ε Bool) (ns found : List ν) :
    collected (ns.foldlM (visit options test) found) =
      Fallible.first? test ns >>= fun hit => .ok (found.reverse ++ hit.toList) := by
  induction ns generalizing found with
  | nil => exact congrArg Except.ok (List.append_nil _).symm
  | cons n ns ih =>
    rw [List.foldlM_cons, visit, Fallible.first?]
    cases test n with
    | error error => rfl
    | ok passes =>
      cases passes with
      | false => exact ih found
      | true =>
        rw [hstop]
        exact congrArg Except.ok List.reverse_cons

/-- **A search keeps the candidates that pass**, or the first of them. -/
theorem search_eq (t : Tree ν) (options : Options) (test : ν → Except ε Bool) (n : ν) :
    t.search options test n =
      if options.stopAtFirstMatch then
        (return (← Fallible.first? test (t.candidates options n)).toList)
      else Fallible.filter test (t.candidates options n) := by
  rw [search, traverse_eq_foldlM]
  cases hstop : options.stopAtFirstMatch with
  | false => exact (collected_foldlM options hstop test _ []).trans (bind_pure _)
  | true => exact collected_foldlM_stopping options hstop test _ []

end Tree

end TreeQuery
