import TreeQuery.Json.Token

/-!
# Documents

A document is a text in the JSON notation. Its structure is read first, without regard to what its
numerals and strings stand for and however deep it is; what cannot be accepted of them is decided
by those who use the document.

## Main definitions

* `Json` — the structure of a document.
* `Json.read?` — the document at the front of a list of tokens.
* `DocumentError` — why a text is refused where a document of some kind is expected.
-/

namespace TreeQuery

mutual

/-- The structure of a document. -/
inductive Json where
  /-- The null value. -/
  | null
  /-- A truth value. -/
  | boolean (value : Bool)
  /-- A number. -/
  | numeral (numeral : Json.Numeral)
  /-- A string. -/
  | string (units : List Json.StringUnit)
  /-- Elements in order. -/
  | array (elements : List Json)
  /-- Members in order, repeated keys included. -/
  | object (members : List Member)

/-- A key and its value. -/
structure Member where
  /-- The key. -/
  key : List Json.StringUnit
  /-- The value. -/
  value : Json

end

/-- Why a text is refused. -/
inductive DocumentError where
  /-- The text is no document, or holds a number or string that stands for nothing. -/
  | malformed
  /-- The document is of the wrong shape. -/
  | unsuitable
  /-- The document should be an object of rules. -/
  | notRules
  deriving DecidableEq

/-- The message of an error. -/
def DocumentError.message : DocumentError → String
  | malformed => "malformed document"
  | unsuitable => "a document of the wrong shape"
  | notRules => "a rule set must be a map"

namespace Json

mutual

/-- Reads the document at the front of a list of tokens. -/
def read? (tokens : List Token) : Option (Parsed Token Json tokens.length) :=
  match tokens with
  | .null :: rest => some ⟨.null, rest, Nat.lt_succ_self _⟩
  | .boolean b :: rest => some ⟨.boolean b, rest, Nat.lt_succ_self _⟩
  | .numeral n :: rest => some ⟨.numeral n, rest, Nat.lt_succ_self _⟩
  | .string units :: rest => some ⟨.string units, rest, Nat.lt_succ_self _⟩
  | .openBracket :: .closeBracket :: rest =>
    some ⟨.array [], rest, Nat.lt_succ_of_lt (Nat.lt_succ_self _)⟩
  | .openBracket :: rest => do
    let elements ← readElements? rest
    return (elements.map Json.array).weaken (Nat.le_succ _)
  | .openBrace :: .closeBrace :: rest =>
    some ⟨.object [], rest, Nat.lt_succ_of_lt (Nat.lt_succ_self _)⟩
  | .openBrace :: rest => do
    let members ← readMembers? rest
    return (members.map Json.object).weaken (Nat.le_succ _)
  | _ => none
termination_by (tokens.length, 0)
decreasing_by
  · exact Prod.Lex.left _ _ (Nat.lt_succ_self _)
  · exact Prod.Lex.left _ _ (Nat.lt_succ_self _)

/-- Reads elements with a comma between two of them, and the end of the array. -/
def readElements? (tokens : List Token) : Option (Parsed Token (List Json) tokens.length) := do
  let first ← read? tokens
  match h : first.rest with
  | .comma :: behind =>
    have hlt : behind.length < tokens.length := by
      have := first.rest_lt
      rw [h] at this
      exact Nat.lt_of_succ_lt this
    let others ← readElements? behind
    return (others.map (first.value :: ·)).weaken (Nat.le_of_lt hlt)
  | .closeBracket :: behind =>
    return ⟨[first.value], behind, by
      have := first.rest_lt
      rw [h] at this
      exact Nat.lt_of_succ_lt this⟩
  | _ => none
termination_by (tokens.length, 1)
decreasing_by
  · exact Prod.Lex.right _ (by decide)
  · exact Prod.Lex.left _ _ hlt

/-- Reads members with a comma between two of them, and the end of the object. -/
def readMembers? (tokens : List Token) : Option (Parsed Token (List Member) tokens.length) :=
  match tokens with
  | .string key :: .colon :: rest => do
    let first ← read? rest
    match h : first.rest with
    | .comma :: behind =>
      have hlt : behind.length < rest.length := by
        have := first.rest_lt
        rw [h] at this
        exact Nat.lt_of_succ_lt this
      let others ← readMembers? behind
      return (others.map (⟨key, first.value⟩ :: ·)).weaken
        (Nat.le_of_lt (Nat.lt_of_lt_of_le hlt (Nat.le_add_right _ 2)))
    | .closeBrace :: behind =>
      return ⟨[⟨key, first.value⟩], behind, by
        have := first.rest_lt
        rw [h, List.length_cons] at this
        simp only [List.length_cons]
        omega⟩
    | _ => none
  | _ => none
termination_by (tokens.length, 1)
decreasing_by
  · exact Prod.Lex.left _ _ (Nat.lt_succ_of_lt (Nat.lt_succ_self _))
  · exact Prod.Lex.left _ _ (Nat.lt_of_lt_of_le hlt (Nat.le_add_right _ 2))

end

end Json

end TreeQuery
