import TreeQuery.Json.Basic
import TreeQuery.Tree.Search

/-!
# Search options written as documents

The options of a search can be written as an object with a member per option, or as an array of
truth values in the order of the options. What is missing has its default, and members of other
names are skipped.

The document is read from left to right and **the first thing wrong decides the error**; a member
that is skipped has to be well formed but may hold numbers and strings that stand for nothing.

## Main definitions

* `Setting` — the options by name.
* `Options.ofDocument` — the options that a text writes.
-/

namespace TreeQuery

/-- An option of a search. -/
inductive Setting where
  /-- Whether the starting node is tested. -/
  | includingSelf
  /-- Whether all nodes below are tested. -/
  | recursive
  /-- Whether the search ends with the first hit. -/
  | stopAtFirstMatch
  deriving DecidableEq

namespace Setting

/-- The options in order. -/
def all : List Setting := [includingSelf, recursive, stopAtFirstMatch]

/-- The option that a key names. -/
def ofKey? : String → Option Setting
  | "including_self" => some includingSelf
  | "recursive" => some recursive
  | "stop_at_first_match" => some stopAtFirstMatch
  | _ => none

end Setting

/-- Options of which some have been read. -/
def Settings := Setting → Option Bool

namespace Settings

/-- No option has been read. -/
def unset : Settings := fun _ => none

/-- One more option has been read. -/
def put (settings : Settings) (setting : Setting) (value : Bool) : Settings :=
  fun other => if other = setting then some value else settings other

/-- The options, with defaults for those that have not been read. -/
def toOptions (settings : Settings) : Options where
  includingSelf := (settings .includingSelf).getD ({} : Options).includingSelf
  recursive := (settings .recursive).getD ({} : Options).recursive
  stopAtFirstMatch := (settings .stopAtFirstMatch).getD ({} : Options).stopAtFirstMatch

/-! ### Reading -/

/-- The error of meeting something that is no truth value. -/
def refuse : List Json.Token → DocumentError
  | .null :: _ => .unsuitable
  | .openBracket :: _ => .unsuitable
  | .openBrace :: _ => .unsuitable
  | .numeral n :: _ => if n.number?.isSome then .unsuitable else .malformed
  | .string units :: _ => if (Json.decode? units).isSome then .unsuitable else .malformed
  | _ => .malformed

/-- Reads a truth value. -/
def readBoolean :
    (tokens : List Json.Token) → Except DocumentError (Parsed Json.Token Bool tokens.length)
  | .boolean value :: rest => .ok ⟨value, rest, by simp⟩
  | tokens => .error (refuse tokens)

/-- Reads the value of a member, which is skipped if the member names no option. -/
def readValue (settings : Settings) (setting : Option Setting) (tokens : List Json.Token) :
    Except DocumentError (Parsed Json.Token Settings tokens.length) :=
  match setting with
  | some setting => return (← readBoolean tokens).map (settings.put setting)
  | none =>
    match Json.read? tokens with
    | some skipped => .ok (skipped.map fun _ => settings)
    | none => .error .malformed

/-- Reads a member. **An option may be given once only.** -/
def readMember (settings : Settings) (tokens : List Json.Token) :
    Except DocumentError (Parsed Json.Token Settings tokens.length) :=
  match tokens with
  | .string key :: rest =>
    match Json.decode? key with
    | some name =>
      let setting := Setting.ofKey? (String.ofList name)
      if (setting.bind settings).isSome then .error .unsuitable
      else
        match rest with
        | .colon :: rest =>
          return (← readValue settings setting rest).weaken (Nat.le_add_right _ 2)
        | _ => .error .malformed
    | none => .error .malformed
  | _ => .error .malformed

/-- Reads members up to the end of the document. -/
def readMembers (settings : Settings) (tokens : List Json.Token) :
    Except DocumentError Settings := do
  let first ← readMember settings tokens
  match h : first.rest with
  | .comma :: behind =>
    have : behind.length < tokens.length := by
      have := first.rest_lt
      rw [h] at this
      exact Nat.lt_of_succ_lt this
    readMembers first.value behind
  | [.closeBrace] => return first.value
  | _ => .error .malformed
termination_by tokens.length

/-- Reads truth values for given options up to the end of the document. -/
def readList (settings : Settings) : List Setting → List Json.Token → Except DocumentError Settings
  | [], _ => .error .malformed
  | setting :: others, tokens => do
    let value ← readBoolean tokens
    match value.rest with
    | .comma :: behind => readList (settings.put setting value.value) others behind
    | [.closeBracket] => return settings.put setting value.value
    | _ => .error .malformed

/-- Reads a whole document. -/
def read : List Json.Token → Except DocumentError Settings
  | [.openBrace, .closeBrace] => .ok unset
  | [.openBracket, .closeBracket] => .ok unset
  | .openBrace :: rest => readMembers unset rest
  | .openBracket :: rest => readList unset Setting.all rest
  | .boolean _ :: _ => .error .unsuitable
  | tokens => .error (refuse tokens)

end Settings

/-- The options that a text writes. -/
def Options.ofDocument (text : String) : Except DocumentError Options := do
  return (← Settings.read (Json.tokens text.toList)).toOptions

end TreeQuery
