import TreeQuery.Pattern.CharSet

/-!
# Ranges of characters as rows of bytes

Automata read a text byte by byte, in the encoding that gives a character one to four bytes. A
range of characters becomes a list of **rows**: a row has a range for each byte, and stands for
all encodings that take each of their bytes from its range.

A range has to be cut for that where the encoding changes its length, at the surrogates, and
wherever a byte could not vary freely while those before it do.

## Main definitions

* `encodedBytes` — the encoding of a code point.
* `byteRows` — the rows of a range.
-/

namespace TreeQuery.Pattern

/-- A range of bytes. -/
structure ByteRange where
  /-- The first byte. -/
  first : Nat
  /-- The last byte. -/
  last : Nat
  deriving DecidableEq

/-- The bytes that encode a code point. -/
def encodedBytes (code : Nat) : List Nat :=
  if code < 0x80 then [code]
  else if code < 0x800 then [0xC0 + code / 0x40, 0x80 + code % 0x40]
  else if code < 0x10000 then
    [0xE0 + code / 0x1000, 0x80 + code / 0x40 % 0x40, 0x80 + code % 0x40]
  else
    [0xF0 + code / 0x40000, 0x80 + code / 0x1000 % 0x40, 0x80 + code / 0x40 % 0x40,
      0x80 + code % 0x40]

/-- How many bytes the encoding of a code point takes. -/
def encodedLength (code : Nat) : Nat :=
  if code < 0x80 then 1 else if code < 0x800 then 2 else if code < 0x10000 then 3 else 4

/-- A character is encoded in as many bytes as the length of its encoding says. -/
theorem length_encodedBytes (code : Nat) : (encodedBytes code).length = encodedLength code := by
  unfold encodedBytes encodedLength
  split
  · rfl
  · split
    · rfl
    · split <;> rfl

/-- Where a range has to be cut so that the bytes behind the first ones take all their values or
do not vary with those: the code point with which the upper part begins. A block holds the code
points that differ in the last bytes alone. -/
def blockCut? (first last block : Nat) : Option Nat :=
  if first / block = last / block then none
  else if first % block ≠ 0 then some ((first / block + 1) * block)
  else if (last + 1) % block ≠ 0 then some (last / block * block)
  else none

/-- Where a range without surrogates has to be cut next, if at all. -/
def cut? (first last : Nat) : Option Nat :=
  match [0x80, 0x800, 0x10000].find? fun limit => first < limit ∧ limit ≤ last with
  | some limit => some limit
  | none => if last < 0x80 then none else [0x40, 0x1000, 0x40000].findSome? (blockCut? first last)

/-- The row of a range that needs no cut. -/
def byteRow (first last : Nat) : List ByteRange :=
  (encodedBytes first).zipWith ByteRange.mk (encodedBytes last)

/-- The rows of a range without surrogates, in ascending order. -/
def alignedRows (first last : Nat) : List (List ByteRange) :=
  match cut? first last with
  | some upper =>
    if _h : first < upper ∧ upper ≤ last then
      alignedRows first (upper - 1) ++ alignedRows upper last
    else [byteRow first last]
  | none => if first ≤ last then [byteRow first last] else []
termination_by last - first

/-- The rows of a range, in ascending order. -/
def byteRows (first last : Nat) : List (List ByteRange) :=
  if first < 0xE000 ∧ 0xD7FF < last then alignedRows first 0xD7FF ++ alignedRows 0xE000 last
  else alignedRows first last

end TreeQuery.Pattern
