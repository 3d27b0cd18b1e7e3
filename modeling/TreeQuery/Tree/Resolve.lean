import TreeQuery.KeyPath
import TreeQuery.Text.Character
import TreeQuery.Tree.Basic

/-!
# Key paths and templates

A key path is resolved from a node one segment at a time. On a node a name is first one of the
names for its kind, then an accessor of the node, then one of a few names that every node has,
and at last a position among its child nodes; on a list it is a position or the size; on a text
only the size. **Whatever cannot be walked leads to the absent slot.** A wildcard maps the rest
of the path over the elements of a list.

Slots are compared with texts, and filled into templates, by their text: the source of a node,
the texts of the elements of a list with a comma between two of them, the plain spelling of a
scalar, and nothing for the absent slot.

A template is a text with markers such as `{{name.first}}`. It is expanded against a base node:
each marker is replaced by the text of the slot that its key path, blanks at its ends aside,
leads to from the base node. **The text filled in is never scanned for markers again.** A marker
that is not closed ends the expansion.

## Main definitions

* `Tree.resolve` — the slot that a key path leads to.
* `Tree.text` — the text of a slot.
* `Tree.expandTemplate` — the text of a template.
-/

namespace TreeQuery

/-! ### Steps -/

namespace Slot

variable {ν : Type}

/-- The size of a list or text as an integer slot. -/
def ofSize (size : Nat) : Slot ν := integer (Int64.ofNat size)

/-- The element at a position; **negative positions count from the end**. -/
def element (items : List (Slot ν)) (position : Int) : Slot ν :=
  let place := if position < 0 then items.length + position else position
  if place < 0 then absent else items[place.toNat]?.getD absent

/-- What a name leads to from a list: its size or one of its elements. -/
def namedOfList (items : List (Slot ν)) : String → Slot ν
  | "size" => ofSize items.length
  | "length" => ofSize items.length
  | "count" => ofSize items.length
  | "first" => element items 0
  | "second" => element items 1
  | "third" => element items 2
  | "last" => element items (items.length - 1)
  | _ => absent

/-- A step from a list. -/
def listStep (items : List (Slot ν)) : Segment → Slot ν
  | .index position => element items position.toInt
  | .name name => namedOfList items name
  | .wildcard => absent

/-- A step from a text: only its size, in characters. -/
def textStep (value : String) : Segment → Slot ν
  | .name "size" => ofSize value.length
  | .name "length" => ofSize value.length
  | _ => absent

end Slot

namespace Tree

variable {ν : Type}

/-- The child nodes of a node as slots. -/
def childSlots (t : Tree ν) (n : ν) : List (Slot ν) := (t.childNodes n).map Slot.node

/-- What a name leads to from a node that has no accessor of that name. -/
def commonStep (t : Tree ν) (n : ν) : String → Slot ν
  | "type" => .text (t.kind n)
  | "source" => .text (t.source n)
  | "children" => .list (t.children n)
  | name => Slot.listStep (t.childSlots n) (.name name)

/-- A step from a node. -/
def nodeStep (t : Tree ν) (n : ν) : Segment → Slot ν
  | .name name =>
    if name = "node_type" ∨ name = "nodeType" then .text (t.kind n)
    else (t.accessor n name).getD (t.commonStep n name)
  | segment => Slot.listStep (t.childSlots n) segment

/-- A step from any slot. -/
def step (t : Tree ν) : Slot ν → Segment → Slot ν
  | .list items, segment => Slot.listStep items segment
  | .node n, segment => t.nodeStep n segment
  | .text value, segment => Slot.textStep value segment
  | .symbol value, segment => Slot.textStep value segment
  | _, _ => .absent

/-- Walks along segments from a slot. A wildcard at the end keeps a list as it is; **a wildcard
on anything but a list leads to the empty list**. -/
def resolveFrom (t : Tree ν) : List Segment → Slot ν → Slot ν
  | [], slot => slot
  | .wildcard :: [], .list items => .list items
  | .wildcard :: rest, .list items => .list (items.map (resolveFrom t rest))
  | .wildcard :: _, _ => .list []
  | segment :: rest, slot => resolveFrom t rest (t.step slot segment)

/-- The slot that a key path leads to from a node. -/
def resolve (t : Tree ν) (n : ν) (path : KeyPath) : Slot ν :=
  t.resolveFrom path.segments (.node n)

/-! ### The text of a slot -/

mutual

/-- The text of a slot. -/
def text (t : Tree ν) : Slot ν → String
  | .node n => t.source n
  | .list items => ", ".intercalate (texts t items)
  | .text value => value
  | .symbol value => value
  | .integer value => String.ofList (integerSpelling value.toInt)
  | .float value => value.plainText
  | .boolean value => if value then "true" else "false"
  | .absent => ""

/-- The texts of several slots. -/
def texts (t : Tree ν) : List (Slot ν) → List String
  | [] => []
  | slot :: slots => text t slot :: texts t slots

end

end Tree

/-! ### Templates -/

namespace Template

/-- Splits a text at its first pair of closing braces, which is dropped. -/
def cutAtClosing : List Char → Option (List Char × List Char)
  | '}' :: '}' :: rest => some ([], rest)
  | c :: rest => (cutAtClosing rest).map fun (inner, behind) => (c :: inner, behind)
  | [] => none

/-- What stands behind a closing pair is shorter, so that the expansion of a text ends. -/
theorem length_lt_of_cutAtClosing {text inner behind : List Char}
    (h : cutAtClosing text = some (inner, behind)) : behind.length < text.length := by
  fun_induction cutAtClosing text generalizing inner with
  | case1 rest =>
    obtain ⟨-, rfl⟩ : _ ∧ rest = behind := by simpa using h
    simp only [List.length_cons]
    omega
  | case2 c rest _ ih =>
    obtain ⟨⟨i, b⟩, hcut, hpair⟩ := Option.map_eq_some_iff.1 h
    obtain ⟨-, rfl⟩ : _ ∧ b = behind := by simpa using hpair
    have := ih hcut
    simp only [List.length_cons]
    omega
  | case3 => simp at h

/-- Expands the markers of a text, filling in `fill path` for the path of each. -/
def expand (fill : List Char → List Char) : List Char → List Char
  | '{' :: '{' :: rest =>
    match h : cutAtClosing rest with
    | some (path, behind) =>
      have := length_lt_of_cutAtClosing h
      fill path ++ expand fill behind
    | none => []
  | c :: rest => c :: expand fill rest
  | [] => []
termination_by text => text.length

/-- Whether a text holds the opening of a marker. -/
def hasMarker : List Char → Bool
  | '{' :: '{' :: _ => true
  | _ :: rest => hasMarker rest
  | [] => false

end Template

/-- The text of a template with its markers resolved from a base node. -/
def Tree.expandTemplate {ν : Type} (t : Tree ν) (template : String) (base : ν) : String :=
  String.ofList (Template.expand
    (fun path => (t.text (t.resolve base (KeyPath.ofChars (Text.trim path)))).toList)
    template.toList)

end TreeQuery
