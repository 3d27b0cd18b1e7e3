import TreeQuery.Text.CodePoints

/-!
# Sets of characters

The character classes of patterns are sets of code points, kept as ascending ranges. A set is
built as a union of ranges in any order. Surrogates are no characters: where a set is cut, they
are passed over.
-/

namespace TreeQuery.Pattern

/-- A set of code points as ascending ranges. -/
abbrev CharSet := Text.Ranges

namespace CharSet

/-! ### Building sets -/

/-- The largest code point. -/
def lastCode : Nat := 0x10FFFF

/-- Joins ranges that are sorted by their first code point and may overlap or touch. -/
def merge : List (Nat × Nat) → CharSet
  | [] => []
  | range :: rest => go range.1 range.2 rest
where
  /-- Extends the range `first`–`last` by those that overlap or touch it. -/
  go (first last : Nat) : List (Nat × Nat) → CharSet
    | [] => [(first, last)]
    | next :: rest =>
      if next.1 ≤ last + 1 then go first (max last next.2) rest
      else (first, last) :: go next.1 next.2 rest

/-- The set of the code points in any of the ranges. -/
def ofRanges (ranges : List (Nat × Nat)) : CharSet :=
  merge (ranges.mergeSort fun a b => a.1 ≤ b.1)

/-- The set of one code point. -/
def singleton (code : Nat) : CharSet := [(code, code)]

/-- The set of given code points. -/
def ofCodes (codes : List Nat) : CharSet := ofRanges (codes.map fun code => (code, code))

/-- Every second code point of the given runs, which begin and end with a member. -/
def everySecond (runs : List (Nat × Nat)) : List (Nat × Nat) :=
  runs.flatMap fun run => (List.range ((run.2 - run.1) / 2 + 1)).map fun i =>
    (run.1 + 2 * i, run.1 + 2 * i)

/-- The set of all code points. -/
def univ : CharSet := [(0, lastCode)]

/-- The code points in either of two sets. -/
def union (a b : CharSet) : CharSet := ofRanges (a ++ b)

/-! ### Cutting sets -/

/-- The character behind another. -/
def next (code : Nat) : Nat := if code = 0xD7FF then 0xE000 else code + 1

/-- The character before another. -/
def previous (code : Nat) : Nat := if code = 0xE000 then 0xD7FF else code - 1

/-- The first and last character of what is below a set. -/
def below : CharSet → List (Nat × Nat)
  | [] => []
  | range :: _ => if 0 < range.1 then [(0, previous range.1)] else []

/-- The first and last character between one range and the next. They cross over where nothing
but surrogates lies in between. -/
def between : CharSet → List (Nat × Nat)
  | range :: follower :: rest =>
    (next range.2, previous follower.1) :: between (follower :: rest)
  | _ => []

/-- The first and last character of what is above a set. -/
def above (a : CharSet) : List (Nat × Nat) :=
  match a.getLast? with
  | some range => if range.2 < lastCode then [(next range.2, lastCode)] else []
  | none => univ

/-- The complement of a set as patterns write it. **Where nothing but surrogates lies between two
ranges, the characters on both sides count as members**, although the set holds them too. -/
def complement (a : CharSet) : CharSet :=
  below a ++ (between a).map (fun gap => (min gap.1 gap.2, max gap.1 gap.2)) ++ above a

/-- The characters outside a set. -/
def outside (a : CharSet) : CharSet :=
  below a ++ (between a).filter (fun gap => gap.1 ≤ gap.2) ++ above a

/-- The code points in both of two sets. -/
def intersection : CharSet → CharSet → CharSet
  | [], _ => []
  | _, [] => []
  | a :: as, b :: bs =>
    let rest := if a.2 < b.2 then intersection as (b :: bs) else intersection (a :: as) bs
    if max a.1 b.1 ≤ min a.2 b.2 then (max a.1 b.1, min a.2 b.2) :: rest else rest
termination_by a b => a.length + b.length

/-- The code points in the first set and not in the second. -/
def difference (a b : CharSet) : CharSet := intersection a (outside b)

/-- The code points in exactly one of two sets. -/
def symmetricDifference (a b : CharSet) : CharSet := difference (union a b) (intersection a b)

/-- Whether all code points of the set are ASCII. -/
def isAscii (a : CharSet) : Bool := a.all fun range => decide (range.2 < 0x80)

end CharSet

end TreeQuery.Pattern
