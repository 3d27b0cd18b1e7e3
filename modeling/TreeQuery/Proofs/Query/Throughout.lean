import TreeQuery.Proofs.Query.Syntax

/-!
# Demands inside arrays

No text spells an array that holds a selector, but a query that is put together otherwise may hold
one, and then searches with it. `Selector.meets` and its companions leave arrays aside. Here the
walk goes through them as well, so that it reaches **every attribute, selector and pseudo class that
a search can come upon**.

## Main definitions and results

* `Query.meetsThroughout` and its companions — meeting demands at every depth, inside arrays too.
* `Selector.meetsThroughout_iff`: what this says of a selector.
* `metCases`: demands that every part meets are met throughout.
-/

namespace TreeQuery

mutual

/-- Whether what a value holds meets the demands, inside arrays too. -/
def Value.meetsThroughout (demands : Demands) : Value → Bool
  | .array items => Value.allMeetThroughout demands items
  | .selector selector => selector.meetsThroughout demands
  | _ => true
termination_by structural value => value

/-- Whether what several values hold meets the demands. -/
def Value.allMeetThroughout (demands : Demands) : List Value → Bool
  | [] => true
  | value :: rest => value.meetsThroughout demands && Value.allMeetThroughout demands rest
termination_by structural values => values

/-- Whether attributes and what they hold meet the demands. -/
def Attribute.allMeetThroughout (demands : Demands) : List Attribute → Bool
  | [] => true
  | ⟨key, operator, value⟩ :: rest =>
    demands.onAttribute ⟨key, operator, value⟩ && value.meetsThroughout demands &&
      Attribute.allMeetThroughout demands rest
termination_by structural attributes => attributes

/-- Whether a test by kind and what it holds meet the demands. -/
def KindTest.meetsThroughout (demands : Demands) : KindTest → Bool
  | ⟨_, attributes⟩ => Attribute.allMeetThroughout demands attributes
termination_by structural test => test

/-- Whether a test by what can be found below and what it holds meet the demands. -/
def PseudoTest.meetsThroughout (demands : Demands) : PseudoTest → Bool
  | ⟨pseudoClass, query⟩ =>
    demands.onPseudoTest ⟨pseudoClass, query⟩ && Chain.allMeetThroughout demands query
termination_by structural test => test

/-- Whether a selector and what it holds meet the demands. -/
def Selector.meetsThroughout (demands : Demands) : Selector → Bool
  | ⟨scope, combinator, next, kindTest, pseudoTest, position⟩ =>
    demands.onSelector ⟨scope, combinator, next, kindTest, pseudoTest, position⟩ &&
    (match next with
      | some selector => selector.meetsThroughout demands
      | none => true) &&
    (match kindTest with
      | some test => test.meetsThroughout demands
      | none => true) &&
    (match pseudoTest with
      | some test => test.meetsThroughout demands
      | none => true)
termination_by structural selector => selector

/-- Whether the selectors of a chain meet the demands. -/
def Chain.meetsThroughout (demands : Demands) : Chain → Bool
  | .last selector => selector.meetsThroughout demands
  | .link selector rest => selector.meetsThroughout demands && rest.meetsThroughout demands
termination_by structural chain => chain

/-- Whether the alternatives of a query meet the demands. -/
def Chain.allMeetThroughout (demands : Demands) : List Chain → Bool
  | [] => true
  | chain :: rest => chain.meetsThroughout demands && Chain.allMeetThroughout demands rest
termination_by structural chains => chains

end

/-- Whether a query meets demands at every depth, inside arrays too. -/
def Query.meetsThroughout (demands : Demands) (query : Query) : Bool :=
  Chain.allMeetThroughout demands query

variable {demands : Demands}

/-- Values meet demands throughout if each of them does. -/
theorem Value.allMeetThroughout_iff {values : List Value} :
    Value.allMeetThroughout demands values = true ↔
      ∀ value ∈ values, value.meetsThroughout demands = true := by
  induction values with
  | nil => simp [allMeetThroughout]
  | cons value values ih =>
    rw [allMeetThroughout, Bool.and_eq_true, ih, List.forall_mem_cons]

/-- A selector meets demands when it does so itself, and the selector behind its move and its two
tests do. -/
theorem Selector.meetsThroughout_iff {selector : Selector} :
    selector.meetsThroughout demands = true ↔
      demands.onSelector selector = true ∧
      (∀ next ∈ selector.next, next.meetsThroughout demands = true) ∧
      (∀ test ∈ selector.kindTest,
        Attribute.allMeetThroughout demands test.attributes = true) ∧
      (∀ test ∈ selector.pseudoTest,
        demands.onPseudoTest test = true ∧
          Chain.allMeetThroughout demands test.query = true) := by
  obtain ⟨scope, combinator, next, kindTest, pseudoTest, position⟩ := selector
  rw [meetsThroughout.eq_def]
  simp only [Bool.and_eq_true, and_assoc]
  refine and_congr_right fun _ => ?_
  cases next <;> rcases kindTest with _ | ⟨kind, attributes⟩ <;>
    rcases pseudoTest with _ | ⟨pseudoClass, query⟩ <;>
    simp [KindTest.meetsThroughout, PseudoTest.meetsThroughout]

/-- Demands that every part meets are met throughout. -/
theorem metCases (hattribute : ∀ a, demands.onAttribute a = true)
    (hselector : ∀ selector, demands.onSelector selector = true)
    (hpseudo : ∀ test, demands.onPseudoTest test = true) : QueryCases
    (fun value => value.meetsThroughout demands = true)
    (fun attributes => Attribute.allMeetThroughout demands attributes = true)
    (fun selector => selector.meetsThroughout demands = true)
    (fun chain => chain.meetsThroughout demands = true)
    (fun query => Chain.allMeetThroughout demands query = true) where
  scalar value hnoArray hnoSelector := by
    cases value with
    | array items => exact absurd rfl (hnoArray items)
    | selector s => exact absurd rfl (hnoSelector s)
    | _ => rfl
  array _ ih := Value.allMeetThroughout_iff.mpr ih
  selectorValue _ ih := ih
  noAttribute := rfl
  moreAttributes key operator value rest ih ih' := by
    rw [Attribute.allMeetThroughout, hattribute, ih, ih']
    rfl
  selector selector hnext hattributes hquery :=
    Selector.meetsThroughout_iff.mpr ⟨hselector selector, hnext, hattributes,
      fun test htest => ⟨hpseudo test, hquery test htest⟩⟩
  last _ ih := ih
  link _ _ ih ih' := Bool.and_eq_true_iff.mpr ⟨ih, ih'⟩
  noChain := rfl
  moreChains _ _ ih ih' := Bool.and_eq_true_iff.mpr ⟨ih, ih'⟩

end TreeQuery
