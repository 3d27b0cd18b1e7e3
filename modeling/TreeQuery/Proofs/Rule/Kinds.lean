import TreeQuery.Proofs.Query.Grammatical
import TreeQuery.Proofs.Query.Searching
import TreeQuery.Query.Token
import TreeQuery.Rule.Search

/-!
# Kinds in both notations

A selector names a kind by itself; a rule set asks for it with the key `node_type`, whose text is a
template like any other and is compared with or without quotes. A kind holds neither a marker nor a
quote, so that **both ask for the same nodes**. Where their further tests agree and do not fail,
they find the same.

## Main results

* `holds_kindCondition`: the meaning of a kind in a rule set.
* `Selector.search_kind`, `RuleSet.search_kind`: what is found where the further tests do not fail.
* `search_kind_eq`: **a selector and a rule set of one kind, whose tests agree, find the same
  nodes**.
-/

namespace TreeQuery

variable {ν : Type}

/-! ### The condition of a kind -/

/-- A text without a brace is expanded to itself. -/
theorem Template.expand_of_forall_ne (fill : List Char → List Char) {text : List Char}
    (h : ∀ c ∈ text, c ≠ '{') : expand fill text = text := by
  fun_induction expand fill text with
  | case1 rest path behind hcut ih => exact absurd rfl (h '{' List.mem_cons_self)
  | case2 rest hcut => exact absurd rfl (h '{' List.mem_cons_self)
  | case3 c rest hmarker ih =>
    rw [ih fun d hd => h d (List.mem_cons_of_mem c hd)]
  | case4 => rfl

/-- A kind holds no marker of a template. -/
theorem expandTemplate_kind {kind : String} (hkind : isKindName kind = true) (t : Tree ν) (n : ν) :
    t.expandTemplate kind n = kind := by
  obtain ⟨c, name, htext, hstart, hname⟩ := exists_kind_eq_cons hkind
  have hbrace : ∀ d ∈ kind.toList, d ≠ '{' := by
    rw [htext]
    rintro d hd rfl
    have hchar : isNameChar '{' = true := by
      rcases List.mem_cons.mp hd with rfl | hd
      · exact isNameChar_of_isNameStart hstart
      · exact hname _ hd
    exact absurd hchar (by decide)
  rw [Tree.expandTemplate, Template.expand_of_forall_ne _ hbrace, String.ofList_toList]

/-- A kind is no quoted text. -/
theorem quoted_ne_kind {kind : String} (hkind : isKindName kind = true) (text : List Char) :
    Text.quoted text ≠ kind.toList := by
  obtain ⟨c, name, htext, hstart, -⟩ := exists_kind_eq_cons hkind
  intro h
  rw [htext, Text.quoted] at h
  obtain rfl := (List.cons.inj h).1
  split at hstart <;> exact absurd hstart (by decide)

/-- A text agrees with a kind when it is the kind: quotes make no difference. -/
theorem agreesWithText_kind {kind : String} (hkind : isKindName kind = true) (t : Tree ν)
    (actual : String) : t.agreesWithText kind (.text actual) = (actual == kind) := by
  have hquoted := quoted_ne_kind hkind actual.toList
  simp [Tree.agreesWithText, Tree.text, hquoted, Bool.beq_eq_decide_eq, String.toList_inj]

/-- The condition that a rule set makes of a kind. -/
def kindCondition (kind : String) : Condition := ⟨["node_type"], .text kind⟩

/-- The path of the condition leads to the kind of the node. -/
theorem resolve_path_kindCondition (t : Tree ν) (kind : String) (n : ν) :
    t.resolve n (kindCondition kind).path = .text (t.kind n) := by
  have hpath : (kindCondition kind).path = ⟨[.name "node_type"]⟩ :=
    show KeyPath.ofChars "node_type".toList = _ by decide
  rw [hpath]
  rfl

/-- A rule set asks for the kind of a node, and does not fail. -/
theorem holds_kindCondition {kind : String} (hkind : isKindName kind = true) (t : Tree ν) (n : ν) :
    (kindCondition kind).holds t n = .ok (t.kind n == kind) := by
  rw [Condition.holds_eq_ok_iff, show (kindCondition kind).keyword? = none from rfl,
    resolve_path_kindCondition]
  dsimp only [kindCondition, RuleValue.expand, RuleValue.compare, RuleValue.agrees]
  rw [expandTemplate_kind hkind, agreesWithText_kind hkind]

/-! ### Both searches -/

section

variable {kind : String} {t : Tree ν} {passes : ν → Bool}

/-- A selector of a kind finds the nodes of that kind that pass, where its attributes have a pure
meaning. -/
theorem Selector.search_kind {attributes : List Attribute}
    (hattributes : ∀ n, Attribute.allHold t n attributes n = .ok (passes n)) (options : Options)
    (slot : Slot ν) :
    Selector.search t options { kindTest := some ⟨kind, attributes⟩ } slot =
      .ok (slot.nodes.flatMap (t.matching options fun n => t.kind n == kind && passes n)) := by
  have hselector : ∀ n, Selector.holds t n { kindTest := some ⟨kind, attributes⟩ } n =
      .ok (t.kind n == kind && passes n) := by
    intro n
    rw [Selector.holds_eq]
    dsimp only [Option.elim]
    rw [KindTest.holds, hattributes n]
    by_cases h : t.kind n = kind <;> cases passes n <;> simp [h, bind, Except.bind]
  rw [Selector.search_eq rfl rfl]
  refine Fallible.gather_eq_ok fun n _ => ?_
  have hpassing : Selector.passing t options { kindTest := some ⟨kind, attributes⟩ } n =
      .ok (t.matching options (fun n => t.kind n == kind && passes n) n) :=
    Tree.search_eq_matching hselector n
  rw [hpassing]
  rfl

/-- A rule set of a kind finds the nodes of the kind that pass, where its further rules have a pure
meaning. -/
theorem RuleSet.search_kind (hkind : isKindName kind = true) {rules : List Rule}
    (hrules : ∀ n, Fallible.all (fun condition => condition.holds t n)
      (Rule.conditionsOfAll [] rules) = .ok (passes n)) (options : Options) (slot : Slot ν) :
    (RuleSet.ofRules (⟨"node_type", .text kind⟩ :: rules)).search t options slot =
      .ok (slot.nodes.flatMap (t.matching options fun n => t.kind n == kind && passes n)) := by
  have hruleSet : ∀ n, (RuleSet.ofRules (⟨"node_type", .text kind⟩ :: rules)).holds t n =
      .ok (t.kind n == kind && passes n) := by
    intro n
    have hconditions : (RuleSet.ofRules (⟨"node_type", .text kind⟩ :: rules)).conditions =
        kindCondition kind :: Rule.conditionsOfAll [] rules := rfl
    rw [RuleSet.holds, hconditions, Fallible.all, holds_kindCondition hkind, hrules n]
    cases t.kind n == kind <;> rfl
  exact Fallible.gather_eq_ok fun n _ => Tree.search_eq_matching hruleSet n

/-- The selector and the rule set of a kind find the nodes of that kind that pass, where the
attributes of the one and the rules of the other have one pure meaning. -/
theorem search_kind_eq (hkind : isKindName kind = true) {attributes : List Attribute}
    {rules : List Rule}
    (hattributes : ∀ n, Attribute.allHold t n attributes n = .ok (passes n))
    (hrules : ∀ n, Fallible.all (fun condition => condition.holds t n)
      (Rule.conditionsOfAll [] rules) = .ok (passes n))
    (options : Options) (slot : Slot ν) :
    ∃ found,
      Selector.search t options { kindTest := some ⟨kind, attributes⟩ } slot = .ok found ∧
        (RuleSet.ofRules (⟨"node_type", .text kind⟩ :: rules)).search t options slot =
          .ok found :=
  ⟨_, Selector.search_kind hattributes options slot, RuleSet.search_kind hkind hrules options slot⟩

end

end TreeQuery
