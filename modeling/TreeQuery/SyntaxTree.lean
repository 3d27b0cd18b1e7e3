import TreeQuery.Text.Character
import TreeQuery.Tree.Basic

/-!
# Syntax trees of Rust source

A syntax tree is given by its rows, one per node in pre-order, tokens such as punctuation among
them. Only named nodes are children and siblings; a field may lead to any node. Nodes are known by
the places of their rows.

A literal node stands for its value. Numeric literals are read as they are written in Rust:
underscores may stand between digits, a prefix may give the radix, and a suffix may name the type.
**A value beyond 64 bits is no value**, never a wrapped one.

## Main definitions

* `SyntaxTree.integerValue?`, `SyntaxTree.floatValue?` — the values of numeric literals.
* `SyntaxTree.ofRows` — the syntax tree of a source text and its rows.
* `SyntaxTree.literal?` — the value that a node stands for, by its kind.
* `SyntaxTree.tree` — a syntax tree as a tree.
-/

namespace TreeQuery

/-! ### Literals -/

namespace SyntaxTree

/-- A text without a given ending, if it has it. -/
def dropEnding? (ending text : List Char) : Option (List Char) :=
  if ending.isSuffixOf text then some (text.take (text.length - ending.length)) else none

/-- The names of integer types, in the order in which they are tried as suffixes. -/
def integerSuffixes : List String :=
  ["i128", "u128", "isize", "usize", "i16", "u16", "i32", "u32", "i64", "u64", "i8", "u8"]

/-- The names of floating-point types, in the order in which they are tried as suffixes. -/
def floatSuffixes : List String := ["f32", "f64"]

/-- A text without the first of several suffixes that it has. -/
def dropSuffix (suffixes : List String) (text : List Char) : List Char :=
  (suffixes.findSome? fun suffix => dropEnding? suffix.toList text).getD text

/-- The radix that a prefix gives, and the text behind the prefix. -/
def splitRadix : List Char → Nat × List Char
  | '0' :: 'x' :: rest => (16, rest)
  | '0' :: 'o' :: rest => (8, rest)
  | '0' :: 'b' :: rest => (2, rest)
  | text => (10, text)

/-- The value of an integer literal. -/
def integerValue? (text : List Char) : Option Int64 :=
  let (radix, body) := splitRadix (text.filter (· ≠ '_'))
  readInt64? radix (dropSuffix integerSuffixes body)

/-- The value of a floating-point literal. -/
def floatValue? (text : List Char) : Option Binary64 :=
  readBinary64? (dropSuffix floatSuffixes (text.filter (· ≠ '_')))

/-- What a literal encloses between two marks, escapes left as they are. Without the marks, a raw
string for one, it is the whole text. -/
def enclosedText (mark : Char) (text : String) : String :=
  match Text.enclosed? mark text.toList with
  | some inner => String.ofList inner
  | none => text

end SyntaxTree

/-! ### Rows -/

/-- A node of a syntax tree. -/
structure Row where
  /-- The kind. -/
  kind : String
  /-- Whether the node is more than a token. -/
  named : Bool
  /-- The field of its parent in which the node stands. -/
  field : Option String
  /-- The place of its first byte in the source text. -/
  start : Nat
  /-- The place behind its last byte. -/
  stop : Nat
  /-- The place of the parent's row. -/
  parent : Option Nat

/-- A syntax tree with its source text. -/
structure SyntaxTree where
  /-- The bytes of the source text. -/
  source : ByteArray
  /-- The rows. -/
  rows : Array Row
  /-- The places of the rows directly below each row, in order. -/
  below : Array (List Nat)
  /-- The kinds of transparent wrappers. -/
  transparentKinds : List String
  /-- Rows stand behind that of their parent. -/
  mem_below : ∀ n, ∀ c ∈ below[n]?.getD [], n < c ∧ c < rows.size

namespace SyntaxTree

/-- The kinds that only group statements or items. -/
def groupingKinds : List String := ["block", "declaration_list"]

/-- The places behind `n` of the rows that name it as their parent. -/
def rowsBelow (rows : Array Row) (n : Nat) : List Nat :=
  (List.range rows.size).filter fun c =>
    decide (n < c) && (rows[c]?.bind Row.parent == some n)

/-- The syntax tree of a source text and its rows in pre-order. -/
def ofRows (transparentKinds : List String) (source : String) (rows : Array Row) : SyntaxTree where
  source := source.toUTF8
  rows := rows
  below := Array.ofFn fun n : Fin rows.size => rowsBelow rows n
  transparentKinds := transparentKinds
  mem_below := by
    intro n c hc
    by_cases hn : n < rows.size
    · rw [Array.getElem?_eq_getElem (by simpa using hn)] at hc
      simp only [Option.getD_some, Array.getElem_ofFn, rowsBelow, List.mem_filter, List.mem_range,
        Bool.and_eq_true, decide_eq_true_eq] at hc
      exact ⟨hc.2.1, hc.1⟩
    · rw [Array.getElem?_eq_none (by simpa using hn)] at hc
      simp at hc

/-- The row of a node. -/
def row (s : SyntaxTree) (n : Nat) : Row := s.rows[n]?.getD ⟨"", false, none, 0, 0, none⟩

/-- The source text of a node. A range that cuts through a character has none. -/
def text (s : SyntaxTree) (n : Nat) : String :=
  let row := s.row n
  (String.fromUTF8? (s.source.extract row.start row.stop)).getD ""

/-- All nodes directly below a node. -/
def allBelow (s : SyntaxTree) (n : Nat) : List Nat := s.below[n]?.getD []

/-- The named nodes directly below a node. -/
def namedBelow (s : SyntaxTree) (n : Nat) : List Nat :=
  (s.allBelow n).filter fun c => (s.row c).named

/-- The named nodes behind a node below the same parent. -/
def namedBehind (s : SyntaxTree) (n : Nat) : List Nat :=
  match (s.row n).parent with
  | some p => (s.namedBelow p).filter (n < ·)
  | none => []

/-- What stands in a field of a node: one node, or a list of several. -/
def fieldSlot? (s : SyntaxTree) (n : Nat) (name : String) : Option (Slot Nat) :=
  match (s.allBelow n).filter fun c => (s.row c).field == some name with
  | [] => none
  | [c] => some (.node c)
  | several => some (.list (several.map Slot.node))

/-- The value that a node stands for. **Parentheses stand for what is in them** if that is one
node. -/
def literal? (s : SyntaxTree) (n : Nat) : Option (Slot Nat) :=
  match (s.row n).kind with
  | "integer_literal" => (integerValue? (s.text n).toList).map Slot.integer
  | "float_literal" => (floatValue? (s.text n).toList).map Slot.float
  | "string_literal" => some (.text (enclosedText '"' (s.text n)))
  | "char_literal" => some (.text (enclosedText '\'' (s.text n)))
  | "boolean_literal" => some (.boolean (s.text n == "true"))
  | "unit_expression" => some .absent
  | "array_expression" => some (.list ((s.namedBelow n).map Slot.node))
  | "parenthesized_expression" =>
    match s.namedBelow n with
    | [inner] => some (.node inner)
    | _ => none
  | _ => none

/-- A syntax tree as a tree. -/
def tree (s : SyntaxTree) : Tree Nat where
  kind n := (s.row n).kind
  source := s.text
  children n := (s.namedBelow n).map Slot.node
  siblings n := (s.namedBehind n).map Slot.node
  accessor := s.fieldSlot?
  literal := s.literal?
  isTransparent n := s.transparentKinds.contains (s.row n).kind
  height n := s.rows.size - n
  height_lt := by
    intro n c hc
    rw [Slot.nodesOfAll_map_node] at hc
    have := s.mem_below n c (List.mem_filter.1 hc).1
    omega

end SyntaxTree

end TreeQuery
