import TreeQuery.Proofs.Query.Pieces
import TreeQuery.Query.Equality

/-!
# Grammatical queries

The types of queries allow more than the notation: a selector with a scope and a test of its own,
an array in an array, a key with a dot inside a segment. A query is grammatical when some text can
stand for each of its parts, and the parts are put together as the grammar puts them together. What
may stand **next to each other** without being read differently is no matter of this module.

## Main definitions

* `Part.isWritten` — some token stands for the part.
* `Query.isGrammatical` — the query is put together of such parts by the grammar.
-/

namespace TreeQuery

/-! ### Parts -/

/-- Whether a text is a kind. -/
def isKindName (name : String) : Bool :=
  match name.toList with
  | c :: rest => isNameStart c && rest.all isNameChar
  | [] => false

/-- A kind has a first character with which names begin, and further characters of names. -/
theorem exists_kind_eq_cons {kind : String} (h : isKindName kind = true) :
    ∃ c name, kind.toList = c :: name ∧ isNameStart c = true ∧
      ∀ d ∈ name, isNameChar d = true := by
  unfold isKindName at h
  split at h
  · rename_i c name htext
    simp only [Bool.and_eq_true, List.all_eq_true] at h
    exact ⟨c, name, htext, h.1, h.2⟩
  · cases h

/-- Whether a segment is one that a key path spells: a name is not empty, has no dot and no
character that a path cannot hold, and is neither a wildcard nor an index. -/
def Segment.isWritten : Segment → Bool
  | name text =>
    !text.toList.isEmpty && text.toList.all (fun c => isPathChar c && c != '.') &&
      text.toList != ['*'] && (readInt64? 10 text.toList).isNone
  | index _ => true
  | wildcard => true

/-- Whether every segment of a path is one that a key path spells. -/
def KeyPath.isWritten (path : KeyPath) : Bool := path.segments.all Segment.isWritten

/-- Whether a path can stand before a selector: it begins with a name, and the name as a name
begins. -/
def KeyPath.isScope (path : KeyPath) : Bool :=
  path.isWritten &&
    match path.segments with
    | .name text :: _ => text.toList.head?.any isNameStart
    | _ => false

/-- Whether a text is read as one unquoted word. -/
def isWord (text : List Char) : Bool :=
  readWord text == (text, []) && text.head?.any fun c => c != '"' && c != '\'' && c != '/'

/-- Whether a text between slashes is read back: no backslash is without the character that it
escapes, and none escapes a slash. -/
def isPatternSource : List Char → Bool
  | [] => true
  | '\\' :: '/' :: _ => false
  | '\\' :: _ :: rest => isPatternSource rest
  | ['\\'] => false
  | _ :: rest => isPatternSource rest

/-- Whether a value is a scalar as some token spells it. A text has no marker and a template has
one; the spelling of an identifier or symbol is a word with just this meaning. -/
def Value.isScalar : Value → Bool
  | .text value => !Template.hasMarker value.toList
  | .template value => Template.hasMarker value.toList
  | .identifier value =>
    isWord value.toList && (Value.ofWord value).beq (.identifier value)
  | .symbol value => isWord (':' :: value.toList) && !value.toList.isEmpty
  | .pattern value => isPatternSource value.source.toList && value.flags.toList.all isPatternFlag
  | .array _ | .selector _ => false
  | _ => true

/-- Whether some token stands for the part. -/
def Part.isWritten : Part → Bool
  | kind name => isKindName name
  | scope path => path.isScope
  | key path => path.isWritten
  | scalar value => value.isScalar
  | _ => true

/-! ### Composition -/

/-- Whether a value is a scalar, an array of scalars, or a selector that begins with a kind. -/
def Value.isComposed : Value → Bool
  | .array items => items.all Value.isScalar
  | .selector s => s.kindTest.isSome
  | value => value.isScalar

/-- Whether a selector is a scope with a selector behind, a combinator with a selector behind, or
a test of nodes. -/
def Selector.isComposed : Selector → Bool
  | ⟨some path, none, some _, none, none, none⟩ => path.isScope
  | ⟨none, some _, some _, none, none, none⟩ => true
  | ⟨none, none, none, some test, _, _⟩ => isKindName test.kind
  | ⟨none, none, none, none, some _, _⟩ => true
  | ⟨none, none, none, none, none, some _⟩ => true
  | _ => false

/-- What the grammar demands of the parts of a query. -/
def grammar : Demands where
  onAttribute a := a.key.isWritten && a.value.isComposed
  onSelector := Selector.isComposed
  onPseudoTest test := !test.query.isEmpty

/-- Whether a query is one that the grammar derives from parts that tokens stand for. -/
def Query.isGrammatical (query : Query) : Bool := !query.isEmpty && Chain.allMeet grammar query

/-- The forms of a selector: **a move with a selector behind it, or a test of nodes**, which may
begin with a kind, a pseudo class or a position. -/
theorem Selector.eq_of_isComposed {s : Selector} (h : s.isComposed = true) :
    (∃ path next, path.isScope = true ∧ s = { scope := some path, next := some next }) ∨
    (∃ combinator next, s = { combinator := some combinator, next := some next }) ∨
    (∃ test pseudoTest position, isKindName test.kind = true ∧
      s = { kindTest := some test, pseudoTest := pseudoTest, position := position }) ∨
    (∃ pseudoTest position, s = { pseudoTest := some pseudoTest, position := position }) ∨
    (∃ position, s = { position := some position }) := by
  unfold isComposed at h
  split at h
  · exact .inl ⟨_, _, h, rfl⟩
  · exact .inr (.inl ⟨_, _, rfl⟩)
  · exact .inr (.inr (.inl ⟨_, _, _, h, rfl⟩))
  · exact .inr (.inr (.inr (.inl ⟨_, _, rfl⟩)))
  · exact .inr (.inr (.inr (.inr ⟨_, rfl⟩)))
  · cases h

/-- **What begins with a kind is a test of nodes.** -/
theorem Selector.eq_of_kindTest {s : Selector} (h : s.isComposed = true)
    (hkind : s.kindTest.isSome = true) :
    ∃ kind attributes pseudoTest position, isKindName kind = true ∧
      s = { kindTest := some ⟨kind, attributes⟩, pseudoTest := pseudoTest,
            position := position } := by
  rcases eq_of_isComposed h with ⟨path, next, -, rfl⟩ | ⟨combinator, next, rfl⟩ |
    ⟨⟨kind, attributes⟩, pseudoTest, position, hname, rfl⟩ | ⟨test, position, rfl⟩ |
    ⟨position, rfl⟩
  case inr.inr.inl => exact ⟨kind, attributes, pseudoTest, position, hname, rfl⟩
  all_goals cases hkind

namespace Value

/-- What is neither an array nor a selector is composed only if it is a scalar. -/
theorem isScalar_of_isComposed {value : Value} (harray : ∀ items, value ≠ .array items)
    (hselector : ∀ s, value ≠ .selector s) (h : value.isComposed = true) :
    value.isScalar = true := by
  cases value with
  | array items => exact absurd rfl (harray items)
  | selector s => exact absurd rfl (hselector s)
  | _ => exact h

/-- A scalar is composed as the grammar has it. -/
theorem isComposed_of_isScalar {value : Value} (h : value.isScalar = true) :
    value.isComposed = true := by
  cases value <;> first | exact h | cases h

/-- Nothing is demanded inside of a scalar. -/
theorem meets_of_isScalar {demands : Demands} {value : Value} (h : value.isScalar = true) :
    value.meets demands = true := by
  cases value <;> first | rfl | cases h

/-- A scalar is one piece. -/
theorem pieces_of_isScalar {value : Value} (h : value.isScalar = true) :
    value.pieces = [⟨.scalar value, .free⟩] := by
  cases value <;> first | rfl | cases h

end Value

end TreeQuery
