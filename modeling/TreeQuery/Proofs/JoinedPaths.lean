import TreeQuery.Arena
import TreeQuery.Proofs.Query.KeyPaths
import TreeQuery.Tree.Resolve

/-!
# Key paths in a row

Many texts spell one path: empty pieces are dropped, and an integer may have a sign and leading
zeros. One spelling of each path is its own, and it is read as the path again. It is what tells two
paths apart.

A dot between two texts puts their paths in a row, and to walk along paths in a row is to walk along
one and then, from where it leads, along the next. The exception are wildcards: what is behind one
is not walked from the list that it leads to, but from each element of it. A path with a wildcard
leads to a list, so that this makes no difference where a path leads to a node.

## Main results

* `KeyPath.spelling_ofChars_inj`: **texts spell one path exactly when they have one canonical
  spelling**.
* `Tree.resolveFrom_append`: walking along segments in a row.
* `Tree.resolveFrom_wildcard`: walking on from a wildcard.
* `KeyPath.canonical_and_joined`: **key paths have a canonical spelling, and are walked in a row**.
-/

namespace TreeQuery

/-! ### One spelling for each path -/

/-- **Texts spell one path exactly when they have one canonical spelling.** -/
theorem KeyPath.spelling_ofChars_inj {a b : List Char} :
    (ofChars a).spelling = (ofChars b).spelling ↔ ofChars a = ofChars b := by
  refine ⟨fun h => ?_, congrArg spelling⟩
  rw [← ofChars_spelling_ofChars a, h, ofChars_spelling_ofChars b]

/-! ### Walking along segments in a row -/

namespace Tree

variable {ν : Type} (t : Tree ν)

/-- Any segment but a wildcard is one step. -/
theorem resolveFrom_cons {segment : Segment} (h : segment ≠ .wildcard) (rest : List Segment)
    (slot : Slot ν) :
    t.resolveFrom (segment :: rest) slot = t.resolveFrom rest (t.step slot segment) := by
  cases segment with
  | wildcard => exact absurd rfl h
  | _ => rfl

/-- **What is behind a wildcard is walked from each element of a list**, and from nothing else. -/
theorem resolveFrom_wildcard (rest : List Segment) (slot : Slot ν) :
    t.resolveFrom (.wildcard :: rest) slot =
      .list ((slot.items?.getD []).map (t.resolveFrom rest)) := by
  cases slot with
  | list items =>
    cases rest with
    | nil => exact congrArg Slot.list (List.map_id' items).symm
    | cons segment rest => rfl
  | _ => cases rest <;> rfl

/-- **To walk along segments in a row is to walk along the first ones and then along the others**,
if there is no wildcard among the first ones. -/
theorem resolveFrom_append {first : List Segment} (h : .wildcard ∉ first) (others : List Segment)
    (slot : Slot ν) :
    t.resolveFrom (first ++ others) slot = t.resolveFrom others (t.resolveFrom first slot) := by
  induction first generalizing slot with
  | nil => rfl
  | cons segment first ih =>
    have hsegment : segment ≠ .wildcard := (List.ne_of_not_mem_cons h).symm
    rw [List.cons_append, resolveFrom_cons t hsegment, resolveFrom_cons t hsegment,
      ih (List.not_mem_of_not_mem_cons h)]

/-- A wildcard leads to a list, whatever is behind it. -/
theorem exists_resolveFrom_eq_list {segments : List Segment} (h : .wildcard ∈ segments)
    (slot : Slot ν) : ∃ items, t.resolveFrom segments slot = .list items := by
  obtain ⟨first, others, rfl, hfirst⟩ := List.eq_append_cons_of_mem h
  rw [resolveFrom_append t hfirst, resolveFrom_wildcard]
  exact ⟨_, rfl⟩

/-- A path that leads to a node has no wildcard. -/
theorem wildcard_notMem_of_resolve {n m : ν} {path : KeyPath} (h : t.resolve n path = .node m) :
    .wildcard ∉ path.segments := by
  intro hmem
  obtain ⟨items, hitems⟩ := exists_resolveFrom_eq_list t hmem (.node n)
  cases h.symm.trans hitems

/-- Walking along the path of two texts with a dot between them. -/
theorem resolve_joined {outer : List Char} (h : .wildcard ∉ (KeyPath.ofChars outer).segments)
    (inner : List Char) (n : ν) :
    t.resolve n (.ofChars (outer ++ '.' :: inner)) =
      t.resolveFrom (KeyPath.ofChars inner).segments (t.resolve n (.ofChars outer)) := by
  rw [resolve, KeyPath.segments_ofChars_append, resolveFrom_append t h]
  rfl

end Tree

namespace KeyPath

/-- **Key paths have a canonical spelling, and are walked in a row.** The spelling of the path of a
text is read as the path again, and is its own spelling. A dot between two texts puts the segments
of their paths in a row; if there is no wildcard in the first path, the joined path is walked by
walking along the first one and then along the second, and if the first one leads to a node, then
from that node. -/
theorem canonical_and_joined {ν : Type} (t : Tree ν) :
    (∀ text : List Char, ofChars (ofChars text).spelling = ofChars text ∧
      (ofChars (ofChars text).spelling).spelling = (ofChars text).spelling) ∧
    ∀ outer inner : List Char,
      (ofChars (outer ++ '.' :: inner)).segments =
          (ofChars outer).segments ++ (ofChars inner).segments ∧
        (.wildcard ∉ (ofChars outer).segments → ∀ n,
          t.resolve n (ofChars (outer ++ '.' :: inner)) =
            t.resolveFrom (ofChars inner).segments (t.resolve n (ofChars outer))) ∧
        ∀ n m, t.resolve n (ofChars outer) = .node m →
          t.resolve n (ofChars (outer ++ '.' :: inner)) = t.resolve m (ofChars inner) := by
  refine ⟨fun text => ?_, fun outer inner => ?_⟩
  · have hread := ofChars_spelling_ofChars text
    exact ⟨hread, congrArg spelling hread⟩
  · refine ⟨segments_ofChars_append outer inner, fun h => t.resolve_joined h inner, ?_⟩
    intro n m hnode
    rw [t.resolve_joined (t.wildcard_notMem_of_resolve hnode) inner, hnode]
    rfl

end KeyPath

/-- A call with a list of one argument, which has a name. -/
def callOfOne : Arena where
  nodes := #[{ kind := "arg", source := "x", entries := [⟨some "name", .symbol "x"⟩] },
    { kind := "call", source := "f(x)", entries := [⟨some "args", .list [.node 0]⟩] }]
  held_lt := by decide

/-- The first argument, with two dots and a sign that its canonical spelling has not. -/
def firstArgument : List Char := "args..+0".toList

/-- From the call the path leads to the argument, and with a name behind it to where that leads. -/
theorem canonical_and_joined_callOfOne :
    KeyPath.ofChars (KeyPath.ofChars firstArgument).spelling = KeyPath.ofChars firstArgument ∧
      (KeyPath.ofChars firstArgument).spelling = "args.0".toList ∧
      .wildcard ∉ (KeyPath.ofChars firstArgument).segments ∧
      callOfOne.tree.resolve 1 (.ofChars firstArgument) = .node 0 ∧
      callOfOne.tree.resolve 1 (.ofChars (firstArgument ++ '.' :: "name".toList)) =
        callOfOne.tree.resolveFrom (KeyPath.ofChars "name".toList).segments
          (callOfOne.tree.resolve 1 (.ofChars firstArgument)) ∧
      callOfOne.tree.resolve 1 (.ofChars (firstArgument ++ '.' :: "name".toList)) =
        callOfOne.tree.resolve 0 (.ofChars "name".toList) := by
  obtain ⟨hspelling, hjoined⟩ := KeyPath.canonical_and_joined callOfOne.tree
  obtain ⟨-, hwalked, hnode⟩ := hjoined firstArgument "name".toList
  have hwildcard : .wildcard ∉ (KeyPath.ofChars firstArgument).segments := by decide
  have hleads : callOfOne.tree.resolve 1 (.ofChars firstArgument) = .node 0 := rfl
  exact ⟨(hspelling firstArgument).1, by decide, hwildcard, hleads, hwalked hwildcard 1,
    hnode 1 0 hleads⟩

end TreeQuery
