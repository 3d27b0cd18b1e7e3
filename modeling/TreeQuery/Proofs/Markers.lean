import Mathlib.Data.List.Chain
import TreeQuery.Arena
import TreeQuery.Query.Comparison
import TreeQuery.Rule.Search

/-!
# The markers of a template

A template that is written from pieces, texts with a marker between two of them, is taken apart into
these pieces again if the braces leave no doubt: no text holds an opening pair of braces, and none
before a marker ends in such a brace; no path holds a closing pair or ends in one of its braces.

Then **expansion keeps the texts and replaces each marker once**. Whatever is filled in goes to the
result as it is, braces included, since the scan is already behind it. A marker that is not closed
is cut off with all that follows.

## Main definitions and results

* `Template.Pieces` — a template as texts and markers, with the text it is written as.
* `Template.Pieces.IsClear` — the braces leave no doubt.
* `Template.IsUnpaired` — no brace stands twice in a row.
* `Template.expand_text_append`: the scan passes over clear pieces to what stands behind them.
* `Tree.expandTemplate_pieces`: **expansion of clear pieces**.
-/

namespace TreeQuery

namespace Template

/-! ### Templates in pieces -/

/-- A template as texts with a marker between two of them. -/
inductive Pieces where
  /-- The last text. -/
  | last (text : List Char)
  /-- A text, the path of the marker behind it, and the pieces behind that. -/
  | marker (text path : List Char) (rest : Pieces)

namespace Pieces

/-- The template that the pieces are written as. -/
def text : Pieces → List Char
  | last text => text
  | marker text path rest => text ++ '{' :: '{' :: (path ++ '}' :: '}' :: rest.text)

/-- The text behind the last marker. -/
def lastText : Pieces → List Char
  | last text => text
  | marker _ _ rest => rest.lastText

/-- The texts with `fill path` in the place of each marker. -/
def filled (fill : List Char → List Char) : Pieces → List Char
  | last text => text
  | marker text path rest => text ++ fill path ++ rest.filled fill

/-- The braces of the template are those of its markers: no text holds an opening pair and no path a
closing pair, and neither ends where such a pair could begin. -/
def IsClear : Pieces → Prop
  | last text => ¬ ['{', '{'] <:+: text
  | marker text path rest =>
    (¬ ['{', '{'] <:+: text ∧ text.getLast? ≠ some '{') ∧
      (¬ ['}', '}'] <:+: path ∧ path.getLast? ≠ some '}') ∧ rest.IsClear

end Pieces

/-! ### Braces in a row -/

/-- No brace stands twice in a row. -/
def IsUnpaired (brace : Char) (text : List Char) : Prop :=
  text.IsChain fun a b => ¬ (a = brace ∧ b = brace)

/-- A text that holds no pair of a brace has none twice in a row. -/
theorem isUnpaired_of_not_isInfix {brace : Char} {text : List Char}
    (h : ¬ [brace, brace] <:+: text) :
    IsUnpaired brace text := by
  refine List.isChain_iff_forall_rel_of_append_cons_cons.mpr ?_
  rintro a b before behind rfl ⟨rfl, rfl⟩
  exact h ⟨before, behind, by simp⟩

/-- One more brace behind a text that does not end in one. -/
theorem IsUnpaired.append_brace {brace : Char} {text : List Char} (h : IsUnpaired brace text)
    (hlast : text.getLast? ≠ some brace) : IsUnpaired brace (text ++ [brace]) := by
  refine List.IsChain.append h (List.isChain_singleton brace) ?_
  rintro a ha b - ⟨rfl, rfl⟩
  exact hlast ha

/-- In front of a brace, no character of such a text makes a pair with what follows it. -/
theorem IsUnpaired.of_cons {brace c : Char} {text : List Char}
    (h : IsUnpaired brace (c :: text ++ [brace])) (behind : List Char) :
    (∀ d ∈ (text ++ brace :: behind).head?, ¬ (c = brace ∧ d = brace)) ∧
      IsUnpaired brace (text ++ [brace]) := by
  obtain ⟨hhead, hrest⟩ := List.isChain_cons.mp h
  refine ⟨fun d hd => hhead d ?_, hrest⟩
  cases text with
  | nil => exact hd
  | cons _ _ => exact hd

/-! ### Closing a marker -/

/-- The search for a closing pair passes over a character that does not begin one. -/
theorem cutAtClosing_cons {c : Char} {rest : List Char}
    (h : ∀ d ∈ rest.head?, ¬ (c = '}' ∧ d = '}')) :
    cutAtClosing (c :: rest) =
      (cutAtClosing rest).map fun (inner, behind) => (c :: inner, behind) := by
  rw [cutAtClosing]
  rintro more rfl rfl
  exact h '}' rfl ⟨rfl, rfl⟩

/-- A path is cut off where it is closed. -/
theorem cutAtClosing_append {path : List Char} (h : IsUnpaired '}' (path ++ ['}']))
    (behind : List Char) : cutAtClosing (path ++ '}' :: '}' :: behind) = some (path, behind) := by
  induction path with
  | nil => rfl
  | cons c path ih =>
    obtain ⟨hnext, hrest⟩ := h.of_cons ('}' :: behind)
    rw [List.cons_append, cutAtClosing_cons hnext, ih hrest]
    rfl

/-- Without a closing pair nothing is cut off. -/
theorem cutAtClosing_eq_none {text : List Char} (h : IsUnpaired '}' text) :
    cutAtClosing text = none := by
  induction text with
  | nil => rfl
  | cons c text ih =>
    obtain ⟨hhead, hrest⟩ := List.isChain_cons.mp h
    rw [cutAtClosing_cons hhead, ih hrest]
    rfl

/-! ### Expanding -/

variable {fill : List Char → List Char}

/-- The scan keeps a character that does not begin an opening pair. -/
theorem expand_cons {c : Char} {rest : List Char} (h : ∀ d ∈ rest.head?, ¬ (c = '{' ∧ d = '{')) :
    expand fill (c :: rest) = c :: expand fill rest := by
  rw [expand]
  rintro more rfl rfl
  exact h '{' rfl ⟨rfl, rfl⟩

/-- A closed marker is filled in, and the scan goes on behind it. -/
theorem expand_marker {rest path behind : List Char} (h : cutAtClosing rest = some (path, behind)) :
    expand fill ('{' :: '{' :: rest) = fill path ++ expand fill behind := by
  rw [expand]
  split
  · rename_i path' behind' hcut
    obtain ⟨rfl, rfl⟩ := Prod.mk.inj (Option.some.inj (hcut.symm.trans h))
    rfl
  · rename_i hcut
    cases hcut.symm.trans h

/-- A marker that is not closed drops the rest of the text. -/
theorem expand_unclosed {rest : List Char} (h : cutAtClosing rest = none) :
    expand fill ('{' :: '{' :: rest) = [] := by
  rw [expand]
  split
  · rename_i hcut
    cases hcut.symm.trans h
  · rfl

/-- A text without an opening pair is kept up to where the scan may find one. -/
theorem expand_append {text : List Char} (h : IsUnpaired '{' (text ++ ['{'])) (rest : List Char) :
    expand fill (text ++ '{' :: '{' :: rest) = text ++ expand fill ('{' :: '{' :: rest) := by
  induction text with
  | nil => rfl
  | cons c text ih =>
    obtain ⟨hnext, hrest⟩ := h.of_cons ('{' :: rest)
    rw [List.cons_append, expand_cons hnext, ih hrest]
    rfl

/-- A text without an opening pair is kept as it is. -/
theorem expand_eq_self {text : List Char} (h : IsUnpaired '{' text) : expand fill text = text := by
  induction text with
  | nil => rw [expand]
  | cons c text ih =>
    obtain ⟨hhead, hrest⟩ := List.isChain_cons.mp h
    rw [expand_cons hhead, ih hrest]

/-- **The scan passes over clear pieces**: it fills in their markers, and what comes behind them is
expanded as if it stood behind the last text alone. -/
theorem expand_text_append {pieces : Pieces} (h : pieces.IsClear) {behind : List Char}
    (hbehind : expand fill (pieces.lastText ++ behind) = pieces.lastText) :
    expand fill (pieces.text ++ behind) = pieces.filled fill := by
  induction pieces with
  | last text => exact hbehind
  | marker text path rest ih =>
    obtain ⟨⟨htext, htextEnd⟩, ⟨hpath, hpathEnd⟩, hrest⟩ := h
    have htext := (isUnpaired_of_not_isInfix htext).append_brace htextEnd
    have hpath := (isUnpaired_of_not_isInfix hpath).append_brace hpathEnd
    have hsplit : (Pieces.marker text path rest).text ++ behind =
        text ++ '{' :: '{' :: (path ++ '}' :: '}' :: (rest.text ++ behind)) := by
      simp [Pieces.text]
    rw [hsplit, expand_append htext, expand_marker (cutAtClosing_append hpath _), ih hrest hbehind,
      Pieces.filled, List.append_assoc]

/-- No opening pair stands in the text behind the last marker. -/
theorem Pieces.IsClear.isUnpaired_lastText {pieces : Pieces} (h : pieces.IsClear) :
    IsUnpaired '{' pieces.lastText := by
  induction pieces with
  | last text => exact isUnpaired_of_not_isInfix h
  | marker text path rest ih => exact ih h.2.2

/-- **Clear pieces are expanded piece by piece**: texts are kept, and markers are filled in. -/
theorem expand_text {pieces : Pieces} (h : pieces.IsClear) :
    expand fill pieces.text = pieces.filled fill := by
  have hlast : expand fill (pieces.lastText ++ []) = pieces.lastText := by
    rw [List.append_nil]
    exact expand_eq_self h.isUnpaired_lastText
  have hpieces := expand_text_append h hlast
  rwa [List.append_nil] at hpieces

/-- A marker that is not closed adds nothing, whatever stands behind it. -/
theorem expand_text_append_unclosed {pieces : Pieces} (h : pieces.IsClear)
    (hlast : pieces.lastText.getLast? ≠ some '{') {behind : List Char}
    (hbehind : ¬ ['}', '}'] <:+: behind) :
    expand fill (pieces.text ++ '{' :: '{' :: behind) = pieces.filled fill := by
  refine expand_text_append h ?_
  have hcut := cutAtClosing_eq_none (isUnpaired_of_not_isInfix hbehind)
  rw [expand_append (h.isUnpaired_lastText.append_brace hlast), expand_unclosed hcut,
    List.append_nil]

end Template

open Template

variable {ν : Type}

/-- What a marker is replaced by: the text of the slot that its path, blanks at its ends aside,
leads to from the base node. -/
def Tree.markerText (t : Tree ν) (base : ν) (path : List Char) : List Char :=
  (t.text (t.resolve base (KeyPath.ofChars (Text.trim path)))).toList

/-- **A template of clear pieces is expanded to its texts as they are, with the text that each path
leads to in the place of its marker.** The same is compared with in a query and expected by a rule.
What stands behind it from an unclosed marker on is dropped. -/
theorem Tree.expandTemplate_pieces (t : Tree ν) (base : ν) {pieces : Pieces} (h : pieces.IsClear) :
    t.expandTemplate (String.ofList pieces.text) base =
        String.ofList (pieces.filled (t.markerText base)) ∧
      (Value.template (String.ofList pieces.text)).expectedText t base =
        String.ofList (pieces.filled (t.markerText base)) ∧
      (RuleValue.text (String.ofList pieces.text)).expand t base =
        .text (String.ofList (pieces.filled (t.markerText base))) ∧
      (pieces.lastText.getLast? ≠ some '{' → ∀ behind, ¬ ['}', '}'] <:+: behind →
        t.expandTemplate (String.ofList (pieces.text ++ '{' :: '{' :: behind)) base =
          t.expandTemplate (String.ofList pieces.text) base) := by
  have hexpand : t.expandTemplate (String.ofList pieces.text) base =
      String.ofList (pieces.filled (t.markerText base)) := by
    rw [expandTemplate, String.toList_ofList]
    exact congrArg String.ofList (expand_text h)
  refine ⟨hexpand, hexpand, congrArg RuleValue.text hexpand, fun hlast behind hbehind => ?_⟩
  rw [hexpand, expandTemplate, String.toList_ofList]
  exact congrArg String.ofList (expand_text_append_unclosed h hlast hbehind)

/-- A node with a field `a` whose text is a marker for its field `b`. -/
def markerInField : Arena where
  nodes := #[{ kind := "arg", source := "x", entries := [
    ⟨some "a", .text (String.ofList ['{', '{', 'b', '}', '}'])⟩, ⟨some "b", .text "y"⟩] }]
  held_lt := by decide

/-- Markers for `a` and for `b` side by side, with closing braces before them and one more
behind. -/
def sideBySide : Pieces :=
  .marker ['}', '}'] [' ', 'a', ' '] (.marker [] ['b'] (.last ['}']))

/-- What the first marker is replaced by is not expanded again, and an open marker at the end adds
nothing. -/
theorem Tree.expandTemplate_pieces_sideBySide :
    sideBySide.IsClear ∧
      markerInField.tree.expandTemplate (String.ofList sideBySide.text) 0 =
        String.ofList ['}', '}', '{', '{', 'b', '}', '}', 'y', '}'] ∧
      markerInField.tree.expandTemplate
          (String.ofList (sideBySide.text ++ ['{', '{', 'a', '}'])) 0 =
        String.ofList ['}', '}', '{', '{', 'b', '}', '}', 'y', '}'] := by
  have hclear : sideBySide.IsClear :=
    ⟨⟨by decide, by decide⟩, ⟨by decide, by decide⟩, ⟨by decide, by decide⟩, ⟨by decide, by decide⟩,
      (by decide : ¬ ['{', '{'] <:+: ['}'])⟩
  have hfilled : sideBySide.filled (markerInField.tree.markerText 0) =
      ['}', '}', '{', '{', 'b', '}', '}', 'y', '}'] := by cbv
  obtain ⟨hexpand, -, -, hunclosed⟩ := markerInField.tree.expandTemplate_pieces 0 hclear
  have hexpand := hexpand.trans (congrArg String.ofList hfilled)
  exact ⟨hclear, hexpand, (hunclosed (by decide) ['a', '}'] (by decide)).trans hexpand⟩

end TreeQuery
