import TreeQuery.Pattern.Age
import TreeQuery.Pattern.ScriptExtension
import TreeQuery.Pattern.Segmentation

/-!
# Character properties by name

Patterns name character classes in three ways: by a property of the Unicode standard, by one of
the classes `d`, `s` and `w`, or by one of the bracketed ASCII classes. Names of properties are
compared **loosely**: case, spaces, hyphens, underscores and a leading `is` do not matter.
-/

namespace TreeQuery.Pattern

/-! ### Properties of the standard -/

/-- A property name without what loose comparison ignores. -/
def looseName (name : List Char) : String :=
  let lower := name.map Char.toLower
  let keep (text : List Char) : List Char :=
    text.filter fun c => decide (c.toNat < 0x80) && c != ' ' && c != '_' && c != '-'
  match lower with
  | 'i' :: 's' :: rest => if keep rest = ['c'] then "isc" else String.ofList (keep rest)
  | _ => String.ofList (keep lower)

/-- The set that a list of named sets gives a name, with all its names. -/
def findNamed (named : List (List String × CharSet)) (name : String) :
    Option (List String × CharSet) :=
  named.find? fun entry => entry.1.contains name

/-- The characters with the property that a text names: a binary property, a general category or
a script. -/
def findProperty? (text : List Char) : Option CharSet :=
  let name := looseName text
  let found :=
    findNamed BinaryProperty.named name <|> findNamed DerivedProperty.named name <|>
      findNamed Category.named name <|> findNamed Script.named name
  found.map Prod.snd

/-- The characters for which a property with several values has a given one. An age takes in all
that the versions before it assigned. -/
def findValue? (property value : List Char) : Option CharSet :=
  let value := looseName value
  let ofTable (named : List (List String × CharSet)) := (findNamed named value).map Prod.snd
  match looseName property with
  | "gc" | "generalcategory" => ofTable Category.named
  | "sc" | "script" => ofTable Script.named
  | "scx" | "scriptextensions" =>
    (findNamed Script.named value).map fun (names, own) => ScriptExtension.ofScript names own
  | "age" => Age.assignedBy? value Age.versions
  | "gcb" | "graphemeclusterbreak" => ofTable GraphemeBreak.named
  | "wb" | "wordbreak" => ofTable WordBreak.named
  | "sb" | "sentencebreak" => ofTable SentenceBreak.named
  | _ => none

/-! ### The short classes -/

/-- The classes written with one letter behind a backslash. -/
inductive ShortClass where
  /-- Decimal digits. -/
  | digit
  /-- White space. -/
  | space
  /-- Characters of words: letters, marks, digits, connectors and joiners. -/
  | word
  deriving DecidableEq

/-- The characters of words. -/
def wordChars : CharSet :=
  CharSet.ofRanges (DerivedProperty.alphabetic ++ Category.mark ++ Category.decimalNumber ++
    Category.connectorPunctuation ++ BinaryProperty.joinControl)

/-- The characters of words in ASCII. -/
def asciiWordChars : CharSet := [(0x30, 0x39), (0x41, 0x5A), (0x5F, 0x5F), (0x61, 0x7A)]

namespace ShortClass

/-- The members of a class. -/
def members : ShortClass → CharSet
  | digit => Category.decimalNumber
  | space => BinaryProperty.whiteSpace
  | word => wordChars

/-- The members of a class in ASCII. -/
def asciiMembers : ShortClass → CharSet
  | digit => [(0x30, 0x39)]
  | space => [(0x09, 0x0D), (0x20, 0x20)]
  | word => asciiWordChars

end ShortClass

/-! ### The bracketed ASCII classes -/

/-- The members of a bracketed ASCII class. -/
def findAsciiClass? (name : String) : Option CharSet :=
  match name with
  | "alnum" => some [(0x30, 0x39), (0x41, 0x5A), (0x61, 0x7A)]
  | "alpha" => some [(0x41, 0x5A), (0x61, 0x7A)]
  | "ascii" => some [(0x00, 0x7F)]
  | "blank" => some [(0x09, 0x09), (0x20, 0x20)]
  | "cntrl" => some [(0x00, 0x1F), (0x7F, 0x7F)]
  | "digit" => some [(0x30, 0x39)]
  | "graph" => some [(0x21, 0x7E)]
  | "lower" => some [(0x61, 0x7A)]
  | "print" => some [(0x20, 0x7E)]
  | "punct" => some [(0x21, 0x2F), (0x3A, 0x40), (0x5B, 0x60), (0x7B, 0x7E)]
  | "space" => some [(0x09, 0x0D), (0x20, 0x20)]
  | "upper" => some [(0x41, 0x5A)]
  | "word" => some asciiWordChars
  | "xdigit" => some [(0x30, 0x39), (0x41, 0x46), (0x61, 0x66)]
  | _ => none

end TreeQuery.Pattern
