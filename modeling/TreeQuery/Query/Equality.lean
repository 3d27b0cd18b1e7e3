import TreeQuery.Query.Basic

/-!
# Equality of queries

Two queries are equal when they are written with the same parts in the same places. **Doubles
are compared by value**, so that a query with a not-a-number does not equal itself and the two
zeros are not told apart; patterns are compared by their text and flags.
-/

namespace TreeQuery

mutual

/-- Equality of values. -/
def Value.beq : Value → Value → Bool
  | .text a, .text b => a == b
  | .template a, .template b => a == b
  | .identifier a, .identifier b => a == b
  | .symbol a, .symbol b => a == b
  | .integer a, .integer b => a == b
  | .float a, .float b => a == b
  | .boolean a, .boolean b => a == b
  | .nil, .nil => true
  | .pattern a, .pattern b => a == b
  | .array a, .array b => Value.beqAll a b
  | .selector a, .selector b => a.beq b
  | _, _ => false
termination_by structural a => a

/-- Equality of several values. -/
def Value.beqAll : List Value → List Value → Bool
  | [], [] => true
  | a :: as, b :: bs => a.beq b && Value.beqAll as bs
  | _, _ => false
termination_by structural a => a

/-- Equality of attributes. -/
def Attribute.beq : Attribute → Attribute → Bool
  | ⟨key, operator, value⟩, b => key == b.key && operator == b.operator && value.beq b.value
termination_by structural a => a

/-- Equality of several attributes. -/
def Attribute.beqAll : List Attribute → List Attribute → Bool
  | [], [] => true
  | a :: as, b :: bs => a.beq b && Attribute.beqAll as bs
  | _, _ => false
termination_by structural a => a

/-- Equality of tests by kind. -/
def KindTest.beq : KindTest → KindTest → Bool
  | ⟨kind, attributes⟩, b => kind == b.kind && Attribute.beqAll attributes b.attributes
termination_by structural a => a

/-- Equality of tests by what can be found below. -/
def PseudoTest.beq : PseudoTest → PseudoTest → Bool
  | ⟨pseudoClass, query⟩, b => pseudoClass == b.pseudoClass && Chain.beqAll query b.query
termination_by structural a => a

/-- Equality of selectors. -/
def Selector.beq : Selector → Selector → Bool
  | ⟨scope, combinator, next, kindTest, pseudoTest, position⟩, b =>
    scope == b.scope && combinator == b.combinator &&
    (match next, b.next with
      | none, none => true
      | some a, some b => a.beq b
      | _, _ => false) &&
    (match kindTest, b.kindTest with
      | none, none => true
      | some a, some b => a.beq b
      | _, _ => false) &&
    (match pseudoTest, b.pseudoTest with
      | none, none => true
      | some a, some b => a.beq b
      | _, _ => false) &&
    position == b.position
termination_by structural a => a

/-- Equality of chains. -/
def Chain.beq : Chain → Chain → Bool
  | .last a, .last b => a.beq b
  | .link a as, .link b bs => a.beq b && as.beq bs
  | _, _ => false
termination_by structural a => a

/-- Equality of queries. -/
def Chain.beqAll : List Chain → List Chain → Bool
  | [], [] => true
  | a :: as, b :: bs => a.beq b && Chain.beqAll as bs
  | _, _ => false
termination_by structural a => a

end

instance : BEq Value := ⟨Value.beq⟩
instance : BEq Selector := ⟨Selector.beq⟩
instance : BEq Chain := ⟨Chain.beq⟩

/-- Equality of queries. -/
def Query.beq (a b : Query) : Bool := Chain.beqAll a b

end TreeQuery
