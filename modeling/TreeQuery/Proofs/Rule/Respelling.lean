import Mathlib.Data.List.Forall2
import TreeQuery.Arena
import TreeQuery.Fallible
import TreeQuery.Proofs.Query.KeyPaths
import TreeQuery.Rule.Search

/-!
# Nested and dotted rules

The keys of a condition are joined by dots, and the path is read from the joined text. So it makes
no difference whether a key is nested in another one or written behind it with a dot, **except for a
keyword in front of an expectation**: a keyword is recognised as a key of its own, so that behind a
dot it is one more step of the path.

The joined key and the keyword, if there is one, determine the path: a keyword is the last segment
of the key. What a rule set does is therefore determined by its entries and its keywords.

## Main definitions and results

* `Rule.Respells` — one rule is nested in the one list of rules and dotted in the other.
* `RuleSet.keywords` — the keywords of the conditions.
* `Condition.segments_path`: the path of a condition, in terms of its joined key.
* `RuleSet.holds_congr`: **rule sets of the same entries and keywords are the same tests**.
* `RuleSet.respelled`: **respelling a rule keeps the entries, and the keywords unless it dots one**.
-/

namespace TreeQuery

/-! ### Joined keys -/

/-- A key that is a keyword is a path of one segment. -/
theorem Keyword.segments_of_ofKey?_eq_some {key : String} {keyword : Keyword}
    (h : ofKey? key = some keyword) : (KeyPath.ofChars key.toList).segments = [.name key] := by
  unfold ofKey? at h
  split at h
  case h_11 => cases h
  all_goals decide

/-- A key with a dot in it is no keyword. -/
theorem Keyword.ofKey?_dotted (outer inner : String) : ofKey? (outer ++ "." ++ inner) = none := by
  have hdot : '.' ∈ (outer ++ "." ++ inner).toList := by simp
  revert hdot
  generalize outer ++ "." ++ inner = key
  unfold ofKey?
  split <;> simp

/-- **The path of a condition is read from its joined key**, whose last segment is the keyword if
there is one. -/
theorem Condition.segments_path (condition : Condition) :
    condition.path.segments =
      if condition.keyword?.isSome then (KeyPath.ofChars condition.key.toList).segments.dropLast
      else (KeyPath.ofChars condition.key.toList).segments := by
  unfold path
  cases hkeyword : condition.keyword? with
  | none => rfl
  | some keyword =>
    obtain ⟨last, hlast, hkey⟩ := Option.bind_eq_some_iff.mp hkeyword
    obtain ⟨front, hkeys⟩ := List.getLast?_eq_some_iff.mp hlast
    have hsegments := Keyword.segments_of_ofKey?_eq_some hkey
    show (KeyPath.ofChars (".".intercalate condition.keys.dropLast).toList).segments =
      (KeyPath.ofChars condition.key.toList).segments.dropLast
    rw [key, hkeys, List.dropLast_concat]
    cases front with
    | nil =>
      rw [List.nil_append, String.intercalate_singleton, hsegments, String.intercalate_nil]
      rfl
    | cons first front =>
      have hjoined : (".".intercalate (first :: front ++ [last])).toList =
          (".".intercalate (first :: front)).toList ++ '.' :: last.toList := by
        rw [String.intercalate_append_of_ne_nil (by simp) (by simp)]
        simp
      rw [hjoined, KeyPath.segments_ofChars_append, hsegments, List.dropLast_concat]

/-! ### What determines a rule set -/

/-- The keywords of the conditions in order, none where a condition asks for agreement. -/
def RuleSet.keywords (ruleSet : RuleSet) : List (Option Keyword) :=
  ruleSet.conditions.map Condition.keyword?

/-- The joined key of a condition with what it expects. -/
def Condition.entry (condition : Condition) : String × RuleValue :=
  (condition.key, condition.expected)

/-- Two conditions have the same key, expectation and keyword. -/
structure Condition.Alike (a b : Condition) : Prop where
  /-- The entries are the same. -/
  entry_eq : a.entry = b.entry
  /-- The keywords are the same. -/
  keyword?_eq : a.keyword? = b.keyword?

/-- Conditions are alike one by one when their entries and their keywords are the same. -/
theorem Condition.forall₂_alike_iff {as bs : List Condition} :
    List.Forall₂ Alike as bs ↔ as.map entry = bs.map entry ∧ as.map keyword? = bs.map keyword? := by
  induction as generalizing bs with
  | nil => cases bs <;> simp
  | cons a as ih =>
    cases bs with
    | nil => simp
    | cons b bs =>
      rw [List.forall₂_cons, ih]
      simp only [List.map_cons, List.cons.injEq]
      constructor
      · rintro ⟨⟨hentry, hkeyword⟩, hentries, hkeywords⟩
        exact ⟨⟨hentry, hentries⟩, hkeyword, hkeywords⟩
      · rintro ⟨⟨hentry, hentries⟩, hkeyword, hkeywords⟩
        exact ⟨⟨hentry, hkeyword⟩, hentries, hkeywords⟩

variable {ν : Type} {t : Tree ν}

/-- Conditions that are alike are the same test. -/
theorem Condition.Alike.holds_eq {a b : Condition} (h : a.Alike b) (n : ν) :
    a.holds t n = b.holds t n := by
  obtain ⟨hentry, hkeyword⟩ := h
  obtain ⟨hkey, hexpected⟩ := Prod.mk.inj hentry
  have hpath : a.path = b.path := by
    have hsegments : a.path.segments = b.path.segments := by
      rw [segments_path, segments_path, hkeyword, hkey]
    cases ha : a.path
    cases hb : b.path
    rw [ha, hb] at hsegments
    exact congrArg KeyPath.mk hsegments
  rw [holds, holds, hkey, hexpected, hkeyword, hpath]

/-- **Rule sets of the same entries and keywords are the same tests.** -/
theorem RuleSet.holds_congr {a b : RuleSet} (hentries : a.entries = b.entries)
    (hkeywords : a.keywords = b.keywords) : a.holds t = b.holds t := by
  funext n
  obtain ⟨as⟩ := a
  obtain ⟨bs⟩ := b
  have halike : List.Forall₂ Condition.Alike as bs :=
    Condition.forall₂_alike_iff.mpr ⟨hentries, hkeywords⟩
  rw [holds, holds]
  dsimp only
  clear hentries hkeywords
  induction halike with
  | nil => rfl
  | cons hfirst _ ih => rw [Fallible.all, Fallible.all, hfirst.holds_eq, ih]

/-- Rule sets with the same entries and keywords find the same nodes. -/
theorem RuleSet.search_congr {a b : RuleSet} (hentries : a.entries = b.entries)
    (hkeywords : a.keywords = b.keywords) (options : Options) (slot : Slot ν) :
    a.search t options slot = b.search t options slot := by
  rw [search, search, holds_congr hentries hkeywords]

/-! ### Keys that are joined alike -/

/-- Two lists of keys are joined to the same text. -/
structure JoinedAlike (keys keys' : List String) : Prop where
  /-- There are keys in the one list. -/
  ne_nil : keys ≠ []
  /-- There are keys in the other list. -/
  ne_nil' : keys' ≠ []
  /-- The joined texts are the same. -/
  intercalate_eq : ".".intercalate keys = ".".intercalate keys'

/-- Keys that are joined to the same text are so with more keys behind them. -/
theorem JoinedAlike.append {keys keys' : List String} (h : JoinedAlike keys keys')
    (more : List String) : JoinedAlike (keys ++ more) (keys' ++ more) := by
  obtain ⟨hne, hne', hjoined⟩ := h
  refine ⟨by simp [hne], by simp [hne'], ?_⟩
  cases more with
  | nil => rwa [List.append_nil, List.append_nil]
  | cons key more =>
    rw [String.intercalate_append_of_ne_nil hne (by simp),
      String.intercalate_append_of_ne_nil hne' (by simp), hjoined]

/-- A key nested in another one is joined like the two with a dot. -/
theorem JoinedAlike.dotted (keys : List String) (outer inner : String) :
    JoinedAlike (keys ++ [outer, inner]) (keys ++ [outer ++ "." ++ inner]) := by
  refine ⟨by simp, by simp, ?_⟩
  cases keys with
  | nil => simp
  | cons key keys =>
    rw [String.intercalate_append_of_ne_nil (by simp) (by simp),
      String.intercalate_append_of_ne_nil (by simp) (by simp)]
    simp

/-- Conditions under keys that are joined to the same text are alike if the last keys are the
same. -/
theorem Condition.Alike.mk_of_joinedAlike {keys keys' : List String} (h : JoinedAlike keys keys')
    (hlast : keys.getLast? = keys'.getLast?) (expected : RuleValue) :
    Condition.Alike ⟨keys, expected⟩ ⟨keys', expected⟩ :=
  ⟨congrArg (·, expected) h.intercalate_eq, congrArg (Option.bind · Keyword.ofKey?) hlast⟩

mutual

/-- An expectation has conditions alike under keys that are joined alike and end alike. -/
theorem RuleValue.conditions_alike : ∀ (value : RuleValue) {keys keys' : List String},
    JoinedAlike keys keys' → keys.getLast? = keys'.getLast? →
    List.Forall₂ Condition.Alike (value.conditions keys) (value.conditions keys')
  | .rules rules, _, _, h, _ => Rule.conditionsOfAll_alike rules h
  | .nil, _, _, h, hlast | .boolean _, _, _, h, hlast | .integer _, _, _, h, hlast
  | .float _, _, _, h, hlast | .text _, _, _, h, hlast | .symbol _, _, _, h, hlast
  | .pattern _, _, _, h, hlast | .array _, _, _, h, hlast | .any, _, _, h, hlast =>
    .cons (.mk_of_joinedAlike h hlast _) .nil
termination_by structural value => value

/-- A rule has conditions that are alike under keys that are joined to the same text. -/
theorem Rule.conditions_alike : ∀ (rule : Rule) {keys keys' : List String}, JoinedAlike keys keys' →
    List.Forall₂ Condition.Alike (rule.conditions keys) (rule.conditions keys')
  | ⟨key, value⟩, _, _, h => value.conditions_alike (h.append [key]) (by simp)
termination_by structural rule => rule

/-- Several rules have conditions that are alike under keys that are joined to the same text. -/
theorem Rule.conditionsOfAll_alike : ∀ (rules : List Rule) {keys keys' : List String},
    JoinedAlike keys keys' →
    List.Forall₂ Condition.Alike (Rule.conditionsOfAll keys rules)
      (Rule.conditionsOfAll keys' rules)
  | [], _, _, _ => .nil
  | rule :: rules, _, _, h =>
    List.rel_append (rule.conditions_alike h) (Rule.conditionsOfAll_alike rules h)
termination_by structural rules => rules

end

/-! ### Respelling a rule -/

/-- Whether an expectation consists of further rules. -/
def RuleValue.isNested : RuleValue → Bool
  | .rules _ => true
  | _ => false

/-- The second list of rules is the first one with one rule respelled: a key with a single rule
under it, at some depth, is put in front of the key of that rule with a dot between them. -/
inductive Rule.Respells (outer inner : String) (expected : RuleValue) :
    List Rule → List Rule → Prop where
  /-- The first rule is respelled. -/
  | here (rest : List Rule) : Respells outer inner expected
      (⟨outer, .rules [⟨inner, expected⟩]⟩ :: rest) (⟨outer ++ "." ++ inner, expected⟩ :: rest)
  /-- A rule under the first key is respelled. -/
  | under (key : String) (rest : List Rule) {rules rules' : List Rule} :
      Respells outer inner expected rules rules' →
      Respells outer inner expected (⟨key, .rules rules⟩ :: rest) (⟨key, .rules rules'⟩ :: rest)
  /-- A rule behind the first one is respelled. -/
  | behind (rule : Rule) {rules rules' : List Rule} : Respells outer inner expected rules rules' →
      Respells outer inner expected (rule :: rules) (rule :: rules')

/-- An expectation that is not rules is one condition. -/
theorem RuleValue.conditions_eq_of_not_isNested {value : RuleValue} (h : value.isNested = false)
    (keys : List String) : value.conditions keys = [⟨keys, value⟩] := by
  cases value with
  | rules rules => cases h
  | _ => rfl

/-- A dot in place of a nesting keeps the entries, and the keywords unless it dots one. -/
theorem RuleValue.conditions_dotted (keys : List String) (outer inner : String)
    (expected : RuleValue) :
    (expected.conditions (keys ++ [outer, inner])).map Condition.entry =
        (expected.conditions (keys ++ [outer ++ "." ++ inner])).map Condition.entry ∧
      ((expected.conditions (keys ++ [outer, inner])).map Condition.keyword? =
          (expected.conditions (keys ++ [outer ++ "." ++ inner])).map Condition.keyword? ↔
        Keyword.ofKey? inner = none ∨ expected.isNested = true) := by
  have hjoined := JoinedAlike.dotted keys outer inner
  cases hnested : expected.isNested with
  | true =>
    obtain ⟨rules, rfl⟩ : ∃ rules, expected = .rules rules := by
      cases expected with
      | rules rules => exact ⟨rules, rfl⟩
      | _ => cases hnested
    obtain ⟨hentries, hkeywords⟩ :=
      Condition.forall₂_alike_iff.mp (Rule.conditionsOfAll_alike rules hjoined)
    exact ⟨hentries, iff_of_true hkeywords (.inr rfl)⟩
  | false =>
    rw [conditions_eq_of_not_isNested hnested, conditions_eq_of_not_isNested hnested]
    refine ⟨congrArg (fun key => [(key, expected)]) hjoined.intercalate_eq, ?_⟩
    simp [Condition.keyword?, Keyword.ofKey?_dotted]

/-- **Respelling a rule keeps the entries of all conditions, and their keywords unless the keyword
was the nested key.** The induction is on where the rule stands. -/
theorem Rule.Respells.conditionsOfAll {outer inner : String} {expected : RuleValue}
    {rules rules' : List Rule} (h : Respells outer inner expected rules rules')
    (keys : List String) :
    (Rule.conditionsOfAll keys rules).map Condition.entry =
        (Rule.conditionsOfAll keys rules').map Condition.entry ∧
      ((Rule.conditionsOfAll keys rules).map Condition.keyword? =
          (Rule.conditionsOfAll keys rules').map Condition.keyword? ↔
        Keyword.ofKey? inner = none ∨ expected.isNested = true) := by
  induction h generalizing keys with
  | here rest =>
    obtain ⟨hentries, hkeywords⟩ := RuleValue.conditions_dotted keys outer inner expected
    have hnested : (Rule.mk outer (.rules [⟨inner, expected⟩])).conditions keys =
        expected.conditions (keys ++ [outer, inner]) := by
      simp [Rule.conditions, RuleValue.conditions, Rule.conditionsOfAll]
    have hdotted : (Rule.mk (outer ++ "." ++ inner) expected).conditions keys =
        expected.conditions (keys ++ [outer ++ "." ++ inner]) := rfl
    rw [Rule.conditionsOfAll, Rule.conditionsOfAll, hnested, hdotted]
    simp only [List.map_append, List.append_left_inj]
    exact ⟨hentries, hkeywords⟩
  | under key rest _ ih =>
    rw [Rule.conditionsOfAll, Rule.conditionsOfAll]
    simp only [List.map_append, List.append_left_inj]
    exact ih (keys ++ [key])
  | behind rule _ ih =>
    rw [Rule.conditionsOfAll, Rule.conditionsOfAll]
    simp only [List.map_append, List.append_right_inj]
    exact ih keys

/-- **Respelling a rule keeps the entries. It keeps what the rule set does unless the dot stands
before a keyword with an expectation**, which is then no keyword any more. In general, rule sets of
the same entries do the same if their keywords are the same. -/
theorem RuleSet.respelled {outer inner : String} {expected : RuleValue} {rules rules' : List Rule}
    (h : Rule.Respells outer inner expected rules rules') :
    (ofRules rules).entries = (ofRules rules').entries ∧
    ((ofRules rules).keywords = (ofRules rules').keywords ↔
      Keyword.ofKey? inner = none ∨ expected.isNested = true) ∧
    (Keyword.ofKey? inner = none ∨ expected.isNested = true →
      ∀ {ν : Type} (t : Tree ν),
        (∀ n, (ofRules rules).holds t n = (ofRules rules').holds t n) ∧
        ∀ options slot,
          (ofRules rules).search t options slot = (ofRules rules').search t options slot) ∧
    ∀ a b : RuleSet, a.entries = b.entries → a.keywords = b.keywords →
      ∀ {ν : Type} (t : Tree ν),
        (∀ n, a.holds t n = b.holds t n) ∧
        ∀ options slot, a.search t options slot = b.search t options slot := by
  obtain ⟨hentries, hkeywords⟩ := h.conditionsOfAll []
  have hsame : ∀ a b : RuleSet, a.entries = b.entries → a.keywords = b.keywords →
      ∀ {ν : Type} (t : Tree ν), (∀ n, a.holds t n = b.holds t n) ∧
        ∀ options slot, a.search t options slot = b.search t options slot :=
    fun a b he hk ν t => ⟨congrFun (holds_congr he hk), search_congr he hk⟩
  exact ⟨hentries, hkeywords, fun hinner => hsame _ _ hentries (hkeywords.mpr hinner), hsame⟩

/-- A call with two arguments. -/
def callOfTwo : Arena where
  nodes := #[{ kind := "arg", source := "x" }, { kind := "arg", source := "y" },
    { kind := "call", source := "f(x, y)", entries := [⟨some "args", .list [.node 0, .node 1]⟩] }]
  held_lt := by decide

/-- Two arguments at least. -/
def nestedRules : List Rule := [⟨"args", .rules [⟨"size", .rules [⟨"gte", .integer 2⟩]⟩]⟩]

/-- With a dot for the outer nesting the rules hold of the call as before. -/
theorem respelled_callOfTwo :
    Rule.Respells "args" "size" (.rules [⟨"gte", .integer 2⟩]) nestedRules
        [⟨"args.size", .rules [⟨"gte", .integer 2⟩]⟩] ∧
      (Keyword.ofKey? "size" = none ∨ (RuleValue.rules [⟨"gte", .integer 2⟩]).isNested = true) ∧
      (RuleSet.ofRules nestedRules).holds callOfTwo.tree 2 = .ok true ∧
      (RuleSet.ofRules nestedRules).holds callOfTwo.tree 2 =
        (RuleSet.ofRules [⟨"args.size", .rules [⟨"gte", .integer 2⟩]⟩]).holds callOfTwo.tree 2 := by
  have hrespells : Rule.Respells "args" "size" (.rules [⟨"gte", .integer 2⟩]) nestedRules
      [⟨"args.size", .rules [⟨"gte", .integer 2⟩]⟩] := .here []
  have hinner : Keyword.ofKey? "size" = none ∨
      (RuleValue.rules [⟨"gte", .integer 2⟩]).isNested = true := .inl rfl
  have hholds : (RuleSet.ofRules nestedRules).holds callOfTwo.tree 2 = .ok true := rfl
  exact ⟨hrespells, hinner, hholds, ((RuleSet.respelled hrespells).2.2.1 hinner _).1 2⟩

/-- A dot is not always as good as a nesting: with a dot before it `gte` is no comparison, but a
step from the size, which leads nowhere. -/
theorem not_forall_respelled :
    ¬ ∀ (outer inner : String) (expected : RuleValue) (rules rules' : List Rule),
        outer ≠ "" → inner ≠ "" → Rule.Respells outer inner expected rules rules' →
        ∀ (a : Arena) (n : Nat),
          (RuleSet.ofRules rules).holds a.tree n = (RuleSet.ofRules rules').holds a.tree n := by
  intro h
  have hrespells : Rule.Respells "size" "gte" (.integer 2) nestedRules
      [⟨"args", .rules [⟨"size.gte", .integer 2⟩]⟩] := .under "args" [] (.here [])
  have hnested : (RuleSet.ofRules nestedRules).holds callOfTwo.tree 2 = .ok true := rfl
  have hdotted : (RuleSet.ofRules [⟨"args", .rules [⟨"size.gte", .integer 2⟩]⟩]).holds
      callOfTwo.tree 2 = .ok false := rfl
  have hsame := h _ _ _ _ _ (by decide) (by decide) hrespells callOfTwo 2
  cases hnested.symm.trans (hsame.trans hdotted)

end TreeQuery
