import TreeQuery.Proofs.Query.Reads

/-!
# The text of keys and operators

A key stands directly before its operator, and the operator directly before its value. What is read
there hangs on the characters where two of them meet.

## Main results

* `settles_key`: **a key is read exactly when it keeps from its operator**.
* `settles_operator`: an operator that keeps from the value leaves the question to the value.
* `misreads_operator`: an operator that does not keep from the value is misread with it.
-/

namespace TreeQuery

variable {outer : List Mode}

/-! ### Keys -/

/-- A segment is spelled with characters of a path. -/
theorem isPathChar_of_mem_segment {segment : Segment} (h : segment.isWritten = true) {c : Char}
    (hc : c ∈ segment.spelling) : isPathChar c = true := by
  cases segment with
  | name text =>
    simp only [Segment.isWritten, Bool.and_eq_true, List.all_eq_true] at h
    exact (h.1.1.2 c hc).1
  | index position =>
    rcases mem_integerSpelling hc with hdigit | rfl
    · exact isPathChar_of_isDigit hdigit
    · decide
  | wildcard =>
    obtain rfl : c = '*' := by simpa [Segment.spelling] using hc
    decide

/-- A character of pieces with dots between them is a dot or stands in a piece. -/
theorem mem_intercalate_dot {pieces : List (List Char)} {c : Char}
    (h : c ∈ ['.'].intercalate pieces) : c = '.' ∨ ∃ piece ∈ pieces, c ∈ piece := by
  induction pieces with
  | nil => cases h
  | cons piece rest ih =>
    cases rest with
    | nil => exact .inr ⟨piece, List.mem_cons_self, by simpa using h⟩
    | cons next rest =>
      rw [List.intercalate_cons_cons] at h
      simp only [List.mem_append, List.mem_singleton] at h
      rcases h with (h | h) | h
      · exact .inr ⟨piece, List.mem_cons_self, h⟩
      · exact .inl h
      · rcases ih h with h | ⟨found, hfound, h⟩
        · exact .inl h
        · exact .inr ⟨found, List.mem_cons_of_mem _ hfound, h⟩

/-- A path is spelled with characters of a path. -/
theorem KeyPath.isPathChar_of_mem_spelling {key : KeyPath} (h : key.isWritten = true) {c : Char}
    (hc : c ∈ key.spelling) : isPathChar c = true := by
  rcases mem_intercalate_dot hc with rfl | ⟨piece, hpiece, hc⟩
  · decide
  · obtain ⟨segment, hsegment, rfl⟩ := List.mem_map.mp hpiece
    exact isPathChar_of_mem_segment (List.all_eq_true.mp h segment hsegment) hc

/-- Characters of a path are read as a key up to where no key goes on. A star before an equals sign
belongs to neither. -/
theorem readKey_append {key rest : List Char} (hpath : ∀ c ∈ key, isPathChar c = true)
    (hlast : key.getLast? = some '*' → rest.head? ≠ some '=') (hrest : readKey rest = ([], rest)) :
    readKey (key ++ rest) = (key, rest) := by
  induction key with
  | nil => exact hrest
  | cons c key ih =>
    have hc := hpath c List.mem_cons_self
    have hstar : ¬ (c = '*' ∧ (key ++ rest).head? = some '=') := by
      rintro ⟨rfl, hhead⟩
      cases key with
      | nil => exact hlast rfl hhead
      | cons d key =>
        obtain rfl : d = '=' := by simpa using hhead
        exact absurd (hpath '=' (by simp)) (by decide)
    have hbehind := ih (fun d hd => hpath d (List.mem_cons_of_mem _ hd)) fun h => hlast (by
      cases key with
      | nil => cases h
      | cons d key => simpa using h)
    rw [List.cons_append, readKey, hbehind, if_neg (by simpa [hc] using hstar)]

/-- No key begins with a character that no path holds. -/
theorem readKey_of_not_isPathChar {c : Char} (h : isPathChar c = false) (rest : List Char) :
    readKey (c :: rest) = ([], c :: rest) := by
  rw [readKey, if_pos (by simp [h])]

/-- The signs and words with which operators are written. -/
theorem Operator.spelling_eq (operator : Operator) :
    operator.spelling =
      match operator with
      | .equal => ['=']
      | .notEqual => ['!', '=']
      | .startsWith => ['^', '=']
      | .endsWith => ['$', '=']
      | .contains => ['*', '=']
      | .greater => ['>']
      | .greaterOrEqual => ['>', '=']
      | .less => ['<']
      | .lessOrEqual => ['<', '=']
      | .like => ['=', '~']
      | .unlike => ['!', '~']
      | .memberOf => [' ', 'i', 'n', ' ']
      | .notMemberOf => [' ', 'n', 'o', 't', ' ', 'i', 'n', ' ']
      | .includes => [' ', 'i', 'n', 'c', 'l', 'u', 'd', 'e', 's', ' ']
      | .notIncludes => [' ', 'n', 'o', 't', ' ', 'i', 'n', 'c', 'l', 'u', 'd', 'e', 's', ' '] := by
  cases operator <;> decide

/-- No key goes on with an operator. -/
theorem readKey_operator (operator : Operator) (more : List Char) :
    readKey (operator.spelling ++ more) = ([], operator.spelling ++ more) := by
  rw [Operator.spelling_eq]
  cases operator with
  | contains => exact if_pos (by simp)
  | _ => exact readKey_of_not_isPathChar (by decide) _

/-- A path that has segments has a spelling that is not empty. -/
theorem KeyPath.spelling_ne_nil {key : KeyPath} (hkey : key.isWritten = true)
    (hne : key.segments ≠ []) : key.spelling ≠ [] := by
  intro hnil
  have hread := ofChars_spelling_of_isWritten hkey
  rw [hnil] at hread
  exact hne (congrArg KeyPath.segments hread.symm)

/-- What is scanned as a key begins with the character that is scanned. -/
theorem scanKey_eq_ok {modes modes' : Modes} {offset : Nat} {c : Char} {rest behind : List Char}
    {lexeme : Lexeme} (h : scanKey modes offset c rest = .ok (lexeme, behind, modes')) :
    ∃ text, readKey (c :: rest) = (c :: text, behind) ∧
      lexeme = .key (String.ofList (c :: text)) := by
  unfold scanKey at h
  split at h
  · cases h
  · rename_i key behind' hne hread
    cases h
    rw [readKey] at hread ⊢
    split at hread
    · exact absurd (Prod.mk.inj hread).1.symm hne
    · rename_i hstop
      rw [if_neg hstop]
      obtain ⟨rfl, rfl⟩ := Prod.mk.inj hread
      exact ⟨_, rfl, rfl⟩

/-- A key that keeps from its operator is read in front of it. -/
theorem reads_key {key : KeyPath} {operator : Operator} (hkey : key.isWritten = true)
    (hkeeps : key.keepsFrom operator = true) (more : List Char) :
    Reads key.spelling ⟨.key, outer⟩ [⟨.key key, .free⟩] (operator.spelling ++ more)
      ⟨.operator, outer⟩ := by
  simp only [KeyPath.keepsFrom, Bool.and_eq_true, Bool.not_eq_true', List.isEmpty_eq_false_iff,
    Bool.and_eq_false_iff, beq_eq_false_iff_ne, Bool.or_eq_false_iff] at hkeeps
  obtain ⟨hne, hstar⟩ := hkeeps
  obtain ⟨c, text, htext⟩ := List.exists_cons_of_ne_nil (key.spelling_ne_nil hkey hne)
  have hpath : ∀ d ∈ key.spelling, isPathChar d = true :=
    fun _ => key.isPathChar_of_mem_spelling hkey
  have hlast : key.spelling.getLast? = some '*' → (operator.spelling ++ more).head? ≠ some '=' := by
    intro hlast
    rcases hstar with hstar | hoperator
    · exact absurd hlast hstar
    · rw [Operator.spelling_eq]
      cases operator with
      | equal => exact absurd rfl hoperator.1
      | like => exact absurd rfl hoperator.2
      | _ => simp
  have hread := readKey_append hpath hlast (readKey_operator operator more)
  have hmeaning := KeyPath.ofChars_spelling_of_isWritten hkey
  rw [htext] at hpath hread hmeaning ⊢
  refine Reads.token (.key (String.ofList (c :: text))) ⟨.key, outer⟩
    (isBlank_eq_false_of_isPathChar (hpath c List.mem_cons_self))
    (Modes.settle_of_ne (by simp) _ _) ?_ ?_ rfl
  · intro offset
    rw [List.cons_append] at hread
    rw [scan, scanKey, hread]
    rfl
  · rw [Lexeme.part?, String.toList_ofList, hmeaning]

/-- A key that ends in a star loses the star to an operator that begins with an equals sign. -/
theorem misreads_key_star {key : KeyPath} {text : List Char} (hkey : key.isWritten = true)
    (htext : key.spelling = text ++ ['*']) (more : List Char) :
    Misreads key.spelling ⟨.key, outer⟩ [⟨.key key, .free⟩] ('=' :: more) := by
  have hpath : ∀ d ∈ text, isPathChar d = true := by
    intro d hd
    refine key.isPathChar_of_mem_spelling hkey ?_
    rw [htext]
    exact List.mem_append_left _ hd
  have hread : readKey (key.spelling ++ '=' :: more) = (text, '*' :: '=' :: more) := by
    rw [htext, List.append_assoc]
    exact readKey_append hpath (by simp) (if_pos (by simp))
  obtain ⟨c, rest, hcons⟩ : ∃ c rest, key.spelling = c :: rest :=
    List.exists_cons_of_ne_nil (by simp [htext])
  have hblank : Text.isBlank c = false := by
    refine isBlank_eq_false_of_isPathChar (key.isPathChar_of_mem_spelling hkey ?_)
    rw [hcons]
    exact List.mem_cons_self
  have hcount : (KeyPath.ofChars text) ≠ key := by
    rintro rfl
    have hstars := KeyPath.count_star_spelling text
    rw [htext, List.count_append] at hstars
    simp at hstars
  rw [hcons] at hread ⊢
  refine Misreads.token ⟨.key, outer⟩ hblank (Modes.settle_of_ne (by simp) _ _) ?_
  intro offset lexeme behind modes' hscan part hpart halike
  obtain ⟨text', hread', rfl⟩ := scanKey_eq_ok hscan
  obtain ⟨rfl, -⟩ := Prod.mk.inj (hread.symm.trans hread')
  rw [Lexeme.part?, String.toList_ofList] at hpart
  obtain rfl := Option.some.inj hpart
  exact hcount (Part.key.inj halike)

/-- Where there is no key, a character that no path holds is refused. -/
theorem misreads_of_readKey {pieces : List Piece} {piece : Piece} {c : Char} {more : List Char}
    (hblank : Text.isBlank c = false) (h : readKey (c :: more) = ([], c :: more)) :
    Misreads [c] ⟨.key, outer⟩ (piece :: pieces) more := by
  refine Misreads.token ⟨.key, outer⟩ hblank (Modes.settle_of_ne (by simp) _ _) ?_
  intro offset lexeme behind modes' hscan
  obtain ⟨text, hread, -⟩ := scanKey_eq_ok hscan
  cases h.symm.trans hread

/-- Where there is no key, a word is read as one. -/
theorem misreads_of_isNameStart {key : KeyPath} (hkey : key.segments = []) {c : Char}
    (hstart : isNameStart c = true) (more : List Char) :
    Misreads [c] ⟨.key, outer⟩ [⟨.key key, .free⟩] more := by
  refine Misreads.token ⟨.key, outer⟩
    (isBlank_eq_false_of_isPathChar (isPathChar_of_isNameStart hstart))
    (Modes.settle_of_ne (by simp) _ _) ?_
  intro offset lexeme behind modes' hscan part hpart halike
  obtain ⟨text, hread, rfl⟩ := scanKey_eq_ok hscan
  rw [Lexeme.part?, String.toList_ofList] at hpart
  obtain rfl := Option.some.inj hpart
  obtain rfl : KeyPath.ofChars (c :: text) = key := Part.key.inj halike
  have hpath := isPathChar_of_readKey hread
  have hscope := KeyPath.isScope_ofChars hstart (hpath c List.mem_cons_self)
    fun d hd => hpath d (List.mem_cons_of_mem _ hd)
  rw [KeyPath.isScope, hkey, Bool.and_false] at hscope
  cases hscope

/-- Where there is no key, no key is read, or a word operator as one. -/
theorem misreads_key_nil {key : KeyPath} (hkey : key.segments = []) (operator : Operator)
    (more : List Char) :
    Misreads [] ⟨.key, outer⟩ [⟨.key key, .free⟩] (operator.spelling ++ more) := by
  have hstop := readKey_operator operator more
  rw [Operator.spelling_eq] at hstop ⊢
  cases operator with
  | memberOf | includes | notMemberOf | notIncludes =>
    exact (misreads_of_isNameStart hkey (by decide) _).blank (by decide) (by simp)
  | _ => exact misreads_of_readKey (by decide) hstop

/-- A key that does not keep from its operator is not read in front of it. -/
theorem misreads_key {key : KeyPath} {operator : Operator} (hkey : key.isWritten = true)
    (hkeeps : key.keepsFrom operator = false) (more : List Char) :
    Misreads key.spelling ⟨.key, outer⟩ [⟨.key key, .free⟩] (operator.spelling ++ more) := by
  by_cases hne : key.segments = []
  · have hnil : key.spelling = [] := by rw [KeyPath.spelling, hne]; rfl
    rw [hnil]
    exact misreads_key_nil hne operator more
  · simp only [KeyPath.keepsFrom, Bool.and_eq_false_iff, Bool.not_eq_false', List.isEmpty_iff, hne,
      false_or, Bool.and_eq_true, beq_iff_eq, Bool.or_eq_true] at hkeeps
    obtain ⟨hstar, hoperator⟩ := hkeeps
    obtain ⟨text, htext⟩ := List.getLast?_eq_some_iff.mp hstar
    rcases hoperator with rfl | rfl
    · exact misreads_key_star hkey htext more
    · exact misreads_key_star hkey htext ('~' :: more)

/-- **A key is read exactly when it keeps from its operator.** -/
theorem settles_key {key : KeyPath} (operator : Operator) (hkey : key.isWritten = true)
    (more : List Char) :
    Settles (key.keepsFrom operator) key.spelling ⟨.key, outer⟩ [⟨.key key, .free⟩]
      (operator.spelling ++ more) ⟨.operator, outer⟩ :=
  ⟨fun hkeeps => reads_key hkey hkeeps more, fun hkeeps => misreads_key hkey hkeeps more⟩

/-! ### Operators -/

/-- Only the next character matters. -/
theorem Operator.keepsFrom_cons (operator : Operator) (c : Char) (text text' : List Char) :
    operator.keepsFrom (c :: text) = operator.keepsFrom (c :: text') := by
  cases operator <;> rfl

/-- An operator of signs is scanned when the next character does not make it longer. -/
theorem readSymbol_append {operator : Operator} {c : Char} {more : List Char}
    (hsign : operator.spelling.head? ≠ some ' ') (hkeeps : operator.keepsFrom (c :: more) = true) :
    readSymbol (operator.spelling ++ c :: more) = some (operator, c :: more) := by
  rw [Operator.spelling_eq] at hsign ⊢
  cases operator with
  | equal =>
    obtain ⟨h, h'⟩ : c ≠ '=' ∧ c ≠ '~' := by simpa [Operator.keepsFrom] using hkeeps
    simp [readSymbol, h, h']
  | greater =>
    have h : c ≠ '=' := by simpa [Operator.keepsFrom] using hkeeps
    simp [readSymbol, h]
  | less =>
    have h : c ≠ '=' := by simpa [Operator.keepsFrom] using hkeeps
    simp [readSymbol, h]
  | memberOf | notMemberOf | includes | notIncludes => exact absurd rfl hsign
  | _ => rfl

/-- A word before a blank is scanned alone, unless it is a negation. -/
theorem readWordOperator_word (word : List Char) (hword : word.all isOperatorChar = true)
    (offset : Nat) (more : List Char) :
    readWordOperator offset (word ++ ' ' :: more) =
      match String.ofList (Text.lowercase word) with
      | "in" => .ok (.memberOf, ' ' :: more)
      | "includes" => .ok (.includes, ' ' :: more)
      | "not_in" => .ok (.notMemberOf, ' ' :: more)
      | "not_includes" => .ok (.notIncludes, ' ' :: more)
      | "not" =>
        let behind := more.dropWhile Text.isBlank
        match String.ofList (Text.lowercase (behind.takeWhile Text.isAlphabetic)) with
        | "in" => .ok (.notMemberOf, behind.dropWhile Text.isAlphabetic)
        | "includes" => .ok (.notIncludes, behind.dropWhile Text.isAlphabetic)
        | word => .error (.unexpectedToken ("not " ++ word) .operator offset)
      | word => .error (.unexpectedToken word .operator offset) := by
  have hstop : ∀ c ∈ (' ' :: more).head?, isOperatorChar c = false := by
    rintro c ⟨⟩
    decide
  obtain ⟨htake, hdrop⟩ := takeWhile_append_of_stop (List.all_eq_true.mp hword) hstop
  rw [readWordOperator, htake, hdrop]
  rfl

/-- An operator of words is scanned up to the blank behind it. -/
theorem readWordOperator_append {operator : Operator} (hword : operator.spelling.head? = some ' ')
    (offset : Nat) (more : List Char) :
    readWordOperator offset (operator.spelling.tail ++ more) = .ok (operator, ' ' :: more) := by
  have hin : String.ofList (Text.lowercase "in".toList) = "in" := by decide
  have hincludes : String.ofList (Text.lowercase "includes".toList) = "includes" := by decide
  have hnot : String.ofList (Text.lowercase "not".toList) = "not" := by decide
  have hstop : ∀ c ∈ (' ' :: more).head?, Text.isAlphabetic c = false := by
    rintro c ⟨⟩
    decide
  rw [Operator.spelling_eq] at hword ⊢
  cases operator with
  | memberOf =>
    refine (readWordOperator_word "in".toList (by decide) offset more).trans ?_
    rw [hin]
    rfl
  | includes =>
    refine (readWordOperator_word "includes".toList (by decide) offset more).trans ?_
    rw [hincludes]
    rfl
  | notMemberOf =>
    have hletters : ∀ c ∈ "in".toList, Text.isAlphabetic c = true :=
      List.all_eq_true.mp (by decide)
    obtain ⟨htake, hdrop⟩ := takeWhile_append_of_stop hletters hstop
    have hblank : ("in".toList ++ ' ' :: more).dropWhile Text.isBlank =
        "in".toList ++ ' ' :: more := rfl
    refine (readWordOperator_word "not".toList (by decide) offset
      ("in".toList ++ ' ' :: more)).trans ?_
    simp only [hnot, hblank, htake, hin, hdrop]
  | notIncludes =>
    have hletters : ∀ c ∈ "includes".toList, Text.isAlphabetic c = true :=
      List.all_eq_true.mp (by decide)
    obtain ⟨htake, hdrop⟩ := takeWhile_append_of_stop hletters hstop
    have hblank : ("includes".toList ++ ' ' :: more).dropWhile Text.isBlank =
        "includes".toList ++ ' ' :: more := rfl
    refine (readWordOperator_word "not".toList (by decide) offset
      ("includes".toList ++ ' ' :: more)).trans ?_
    simp only [hnot, hblank, htake, hincludes, hdrop]
  | _ => cases hword

/-- No letter begins an operator of signs. -/
theorem scanOperator_letter {modes : Modes} {offset : Nat} {c : Char} {rest behind : List Char}
    {operator : Operator} (hletter : Text.isAlphabetic c = true)
    (hread : readWordOperator offset (c :: rest) = .ok (operator, behind)) :
    scanOperator modes offset c rest = .ok (.operator operator, behind, modes.set .value) := by
  have hsymbol : readSymbol (c :: rest) = none := by
    unfold readSymbol
    split
    all_goals try
      rename_i heq
      obtain ⟨rfl, -⟩ := List.cons.inj heq
      exact absurd hletter (by decide)
    rfl
  rw [scanOperator, hsymbol]
  dsimp only
  rw [if_pos hletter, hread]

/-- An operator of words is read up to the blank behind it. -/
theorem reads_word_operator {operator : Operator} (hword : operator.spelling.head? = some ' ')
    (more : List Char) :
    Reads operator.spelling.dropLast ⟨.operator, outer⟩ [⟨.operator operator, .free⟩] (' ' :: more)
      ⟨.value, outer⟩ := by
  have hread := fun offset => readWordOperator_append hword offset more
  rw [Operator.spelling_eq] at hword hread ⊢
  cases operator with
  | memberOf | includes | notMemberOf | notIncludes =>
    refine Reads.blank ?_ (by decide) (by simp) rfl
    exact Reads.token _ ⟨.operator, outer⟩ (by decide) (Modes.settle_of_ne (by simp) _ _)
      (fun offset => scanOperator_letter (by decide) (hread offset)) rfl rfl
  | _ => cases hword

/-- An operator of signs is read when the next character does not make it longer. -/
theorem reads_sign_operator {operator : Operator} {c : Char} {more : List Char}
    (hsign : operator.spelling.head? ≠ some ' ') (hkeeps : operator.keepsFrom (c :: more) = true) :
    Reads operator.spelling ⟨.operator, outer⟩ [⟨.operator operator, .free⟩] (c :: more)
      ⟨.value, outer⟩ := by
  have hread := readSymbol_append hsign hkeeps
  have hblank : ∀ d ∈ operator.spelling.head?, Text.isBlank d = false := by
    rw [Operator.spelling_eq] at hsign ⊢
    cases operator with
    | memberOf | includes | notMemberOf | notIncludes => exact absurd rfl hsign
    | _ =>
      rintro d ⟨⟩
      decide
  obtain ⟨d, signs, hspelling⟩ : ∃ d signs, operator.spelling = d :: signs := by
    rw [Operator.spelling_eq]
    cases operator <;> exact ⟨_, _, rfl⟩
  rw [hspelling] at hread hblank ⊢
  refine Reads.token (.operator operator) ⟨.operator, outer⟩ (hblank d rfl)
    (Modes.settle_of_ne (by simp) _ _) (fun offset => ?_) rfl rfl
  rw [List.cons_append] at hread
  rw [scan, scanOperator, hread]
  rfl

/-- An operator that the next character makes longer is misread. The second of two equals signs is
left out, so that a value that begins with one loses it. -/
theorem misreads_operator {operator : Operator} {c : Char} {text rest : List Char} {piece : Piece}
    {pieces : List Piece} (hkeeps : operator.keepsFrom (c :: text) = false)
    (hsign : c = '=' → Misreads text ⟨.value, outer⟩ (piece :: pieces) rest) :
    Misreads (operator.spelling ++ c :: text) ⟨.operator, outer⟩
      (⟨.operator operator, .free⟩ :: piece :: pieces) rest := by
  have hlonger : ∀ {d : Char} {signs : List Char} (longer : Operator), Text.isBlank d = false →
      readSymbol (d :: (signs ++ rest)) = some (longer, text ++ rest) → longer ≠ operator →
      Misreads (d :: signs) ⟨.operator, outer⟩
        (⟨.operator operator, .free⟩ :: piece :: pieces) rest := by
    intro d signs longer hblank hread hne
    refine Misreads.token ⟨.operator, outer⟩ hblank (Modes.settle_of_ne (by simp) _ _) ?_
    intro offset lexeme behind modes' hscan part hpart halike
    rw [scan, scanOperator, hread] at hscan
    cases hscan
    cases hpart
    exact hne (Part.operator.inj halike)
  rw [Operator.spelling_eq]
  cases operator with
  | equal =>
    by_cases htilde : c = '~'
    · subst htilde
      exact hlonger .like (by decide) rfl (by simp)
    · obtain rfl : c = '=' := by simpa [Operator.keepsFrom, htilde] using hkeeps
      have hequal : Reads ['=', '='] ⟨.operator, outer⟩ [⟨.operator .equal, .free⟩] (text ++ rest)
          ⟨.value, outer⟩ :=
        Reads.token (.operator .equal) ⟨.operator, outer⟩ (by decide)
          (Modes.settle_of_ne (by simp) _ _) (fun _ => rfl) rfl rfl
      exact hequal.misreads_append (hsign rfl)
  | greater =>
    obtain rfl : c = '=' := by simpa [Operator.keepsFrom] using hkeeps
    exact hlonger .greaterOrEqual (by decide) rfl (by simp)
  | less =>
    obtain rfl : c = '=' := by simpa [Operator.keepsFrom] using hkeeps
    exact hlonger .lessOrEqual (by decide) rfl (by simp)
  | _ => cases hkeeps

/-- **An operator that keeps from the value leaves the question to the value**, and one that does
not settles it. -/
theorem settles_operator {operator : Operator} {legible : Bool} {c : Char}
    {text rest : List Char} {part : Part} {pieces : List Piece} {behind : Modes}
    (hvalue : Settles legible (c :: text) ⟨.value, outer⟩ (⟨part, .free⟩ :: pieces) rest behind)
    (hsign : c = '=' → Misreads text ⟨.value, outer⟩ (⟨part, .free⟩ :: pieces) rest) :
    Settles (operator.keepsFrom (c :: text) && legible) (operator.spelling ++ c :: text)
      ⟨.operator, outer⟩ (⟨.operator operator, .free⟩ :: ⟨part, .free⟩ :: pieces) rest behind := by
  cases hkeeps : operator.keepsFrom (c :: text) with
  | false => exact ⟨nofun, fun _ => misreads_operator hkeeps hsign⟩
  | true =>
    rw [Bool.true_and]
    by_cases hword : operator.spelling.head? = some ' '
    · have hlast : operator.spelling = operator.spelling.dropLast ++ [' '] := by
        rw [Operator.spelling_eq] at hword ⊢
        cases operator <;> first | rfl | cases hword
      have hspaced : Settles legible (' ' :: c :: text) ⟨.value, outer⟩ (⟨part, .free⟩ :: pieces)
          rest behind := hvalue.blank (by decide) (by simp) rfl
      rw [hlast, List.append_assoc]
      simpa using (reads_word_operator hword (c :: text ++ rest)).settles.append hspaced
    · have hkeeps : operator.keepsFrom (c :: (text ++ rest)) = true := by
        rwa [operator.keepsFrom_cons c _ text]
      simpa using (reads_sign_operator hword hkeeps).settles.append hvalue

end TreeQuery
