import TreeQuery.Pattern.DerivedProperty
import TreeQuery.Pattern.Script

/-!
# Segmentation

Three properties of the Unicode standard tell where a text may be divided: between the characters
that a reader perceives, between words, and between sentences. Each gives a character one of a
few classes, of which the one for all other characters has no name in patterns.
-/

namespace TreeQuery.Pattern

open CharSet BinaryProperty Category DerivedProperty

/-- The line feed. -/
def lineFeed : CharSet := CharSet.singleton 0x0A

/-- The carriage return. -/
def carriageReturn : CharSet := CharSet.singleton 0x0D

/-- The zero-width joiner. -/
def zeroWidthJoiner : CharSet := CharSet.singleton 0x200D

/-- The characters of tags, which are written in no text of their own. -/
def tagCharacters : CharSet := [(0xE0020, 0xE007F)]

namespace GraphemeBreak

/-- Characters that stand alone: controls, separators, and what is not shown. -/
def control : CharSet :=
  difference
    (ofRanges (Category.control ++ format ++ lineSeparator ++ paragraphSeparator ++
      intersection unassigned defaultIgnorableCodePoint))
    (ofRanges (lineFeed ++ carriageReturn ++ prependedConcatenationMark ++ tagCharacters ++
      [(0x200C, 0x200D)]))

/-- Characters that belong to the one before. -/
def extend : CharSet := union graphemeExtend emojiModifier

/-- Characters that belong to the one behind. -/
def prepend : CharSet :=
  [(0x600, 0x605), (0x6DD, 0x6DD), (0x70F, 0x70F), (0x890, 0x891), (0x8E2, 0x8E2), (0xD4E, 0xD4E),
   (0x110BD, 0x110BD), (0x110CD, 0x110CD), (0x111C2, 0x111C3), (0x113D1, 0x113D1),
   (0x1193F, 0x1193F), (0x11941, 0x11941), (0x11A3A, 0x11A3A), (0x11A84, 0x11A89),
   (0x11D46, 0x11D46), (0x11F02, 0x11F02)]

/-- Spacing marks that belong to the character before, with two vowel signs that are letters. -/
def spacingMark : CharSet :=
  difference
    (union (difference Category.spacingMark graphemeExtend) [(0xE33, 0xE33), (0xEB3, 0xEB3)])
    [(0x102B, 0x102C), (0x1038, 0x1038), (0x1062, 0x1064), (0x1067, 0x106D), (0x1083, 0x1083),
     (0x1087, 0x108C), (0x108F, 0x108F), (0x109A, 0x109C), (0x1A61, 0x1A61), (0x1A63, 0x1A64),
     (0xAA7B, 0xAA7B), (0xAA7D, 0xAA7D), (0x11720, 0x11721)]

/-- Leading consonants of Hangul. -/
def leadingConsonant : CharSet := [(0x1100, 0x115F), (0xA960, 0xA97C)]

/-- Vowels of Hangul and of Kirat Rai. -/
def vowel : CharSet :=
  [(0x1160, 0x11A7), (0xD7B0, 0xD7C6), (0x16D63, 0x16D63), (0x16D67, 0x16D6A)]

/-- Trailing consonants of Hangul. -/
def trailingConsonant : CharSet :=
  [(0x11A8, 0x11FF), (0xD7CB, 0xD7FB)]

/-- Syllables of Hangul without a trailing consonant: the first of every 28. -/
def openSyllable : CharSet :=
  (List.range 399).map fun i => (0xAC00 + 28 * i, 0xAC00 + 28 * i)

/-- Syllables of Hangul with a trailing consonant. -/
def closedSyllable : CharSet := difference [(0xAC00, 0xD7A3)] openSyllable

/-- The classes with their names. -/
def named : List (List String × CharSet) :=
  [(["cn", "control"], control),
   (["ex", "extend"], extend),
   (["pp", "prepend"], prepend),
   (["sm", "spacingmark"], spacingMark),
   (["l"], leadingConsonant),
   (["v"], vowel),
   (["t"], trailingConsonant),
   (["lv"], openSyllable),
   (["lvt"], closedSyllable),
   (["cr"], carriageReturn), (["lf"], lineFeed), (["zwj"], zeroWidthJoiner),
   (["ri", "regionalindicator"], regionalIndicator)]

end GraphemeBreak

namespace WordBreak

/-- Line breaks other than the line feed and the carriage return. -/
def newline : CharSet := [(0xB, 0xC), (0x85, 0x85), (0x2028, 0x2029)]

/-- Characters that belong to the one before. -/
def extend : CharSet := ofRanges (graphemeExtend ++ spacingMark ++ emojiModifier)

/-- Format characters that words pass over. -/
def format : CharSet :=
  difference Category.format
    (ofRanges (prependedConcatenationMark ++ tagCharacters ++ [(0x200B, 0x200D)]))

/-- Katakana and what is used with it. -/
def katakana : CharSet :=
  [(0x3031, 0x3035), (0x309B, 0x309C), (0x30A0, 0x30FA), (0x30FC, 0x30FF), (0x31F0, 0x31FF),
   (0x32D0, 0x32FE), (0x3300, 0x3357), (0xFF66, 0xFF9D), (0x1AFF0, 0x1AFF3), (0x1AFF5, 0x1AFFB),
   (0x1AFFD, 0x1AFFE), (0x1B000, 0x1B000), (0x1B120, 0x1B122), (0x1B155, 0x1B155),
   (0x1B164, 0x1B167)]

/-- Letters of Hebrew. -/
def hebrewLetter : CharSet := intersection Script.hebrew otherLetter

/-- Signs that count as letters although they are not alphabetic. -/
def letterSigns : CharSet :=
  [(0x2C2, 0x2C5), (0x2D2, 0x2D7), (0x2DE, 0x2DF), (0x2E5, 0x2EB), (0x2ED, 0x2ED), (0x2EF, 0x2FF),
   (0x55A, 0x55C), (0x55E, 0x55E), (0x58A, 0x58A), (0x5F3, 0x5F3), (0x70F, 0x70F),
   (0xA708, 0xA716), (0xA720, 0xA721), (0xA789, 0xA78A), (0xAB5B, 0xAB5B)]

/-- Letters of scripts that are written without spaces between words. -/
def unspacedLetters : CharSet :=
  [(0xE01, 0xE30), (0xE32, 0xE33), (0xE40, 0xE46), (0xE81, 0xE82), (0xE84, 0xE84), (0xE86, 0xE8A),
   (0xE8C, 0xEA3), (0xEA5, 0xEA5), (0xEA7, 0xEB0), (0xEB2, 0xEB3), (0xEBD, 0xEBD),
   (0xEC0, 0xEC4), (0xEC6, 0xEC6), (0xEDC, 0xEDF), (0x1000, 0x102A), (0x103F, 0x103F),
   (0x1050, 0x1055), (0x105A, 0x105D), (0x1061, 0x1061), (0x1065, 0x1066), (0x106E, 0x1070),
   (0x1075, 0x1081), (0x108E, 0x108E), (0x1780, 0x17B3), (0x17D7, 0x17D7), (0x17DC, 0x17DC),
   (0x1950, 0x196D), (0x1970, 0x1974), (0x1980, 0x19AB), (0x19B0, 0x19C9), (0x1A20, 0x1A54),
   (0x1AA7, 0x1AA7), (0xA9E0, 0xA9E4), (0xA9E6, 0xA9EF), (0xA9FA, 0xA9FE), (0xAA60, 0xAA76),
   (0xAA7A, 0xAA7A), (0xAA7E, 0xAAAF), (0xAAB1, 0xAAB1), (0xAAB5, 0xAAB6), (0xAAB9, 0xAABD),
   (0xAAC0, 0xAAC0), (0xAAC2, 0xAAC2), (0xAADB, 0xAADD), (0x11700, 0x1171A), (0x11740, 0x11746)]

/-- Letters of scripts that separate words. -/
def aLetter : CharSet :=
  difference (union alphabetic letterSigns)
    (ofRanges (ideographic ++ katakana ++ extend ++ hebrewLetter ++ Script.hiragana ++
      unspacedLetters))

/-- The apostrophe. -/
def singleQuote : CharSet := CharSet.singleton 0x27

/-- The quotation mark. -/
def doubleQuote : CharSet := CharSet.singleton 0x22

/-- Punctuation inside words. -/
def midLetter : CharSet :=
  [(0x3A, 0x3A), (0xB7, 0xB7), (0x387, 0x387), (0x55F, 0x55F), (0x5F4, 0x5F4), (0x2027, 0x2027),
   (0xFE13, 0xFE13), (0xFE55, 0xFE55), (0xFF1A, 0xFF1A)]

/-- Punctuation inside numbers. -/
def midNum : CharSet :=
  [(0x2C, 0x2C), (0x3B, 0x3B), (0x37E, 0x37E), (0x589, 0x589), (0x60C, 0x60D), (0x66C, 0x66C),
   (0x7F8, 0x7F8), (0x2044, 0x2044), (0xFE50, 0xFE50), (0xFE54, 0xFE54), (0xFF0C, 0xFF0C),
   (0xFF1B, 0xFF1B)]

/-- Punctuation inside words and numbers. -/
def midNumLet : CharSet :=
  [(0x2E, 0x2E), (0x2018, 0x2019), (0x2024, 0x2024), (0xFE52, 0xFE52), (0xFF07, 0xFF07),
   (0xFF0E, 0xFF0E)]

/-- Signs written around a number: all that precede what they belong to but for the mark of
abbreviations in Syriac. -/
def numberSigns : CharSet := difference prependedConcatenationMark (CharSet.singleton 0x70F)

/-- Digits, and signs that belong to numbers. -/
def numeric : CharSet :=
  ofRanges (decimalNumber ++ numberSigns ++ [(0x66B, 0x66B), (0x19DA, 0x19DA)])

/-- Connectors of words and numbers. -/
def extendNumLet : CharSet :=
  [(0x5F, 0x5F), (0x202F, 0x202F), (0x203F, 0x2040), (0x2054, 0x2054), (0xFE33, 0xFE34),
   (0xFE4D, 0xFE4F), (0xFF3F, 0xFF3F)]

/-- Spaces that stay together. -/
def wSegSpace : CharSet :=
  [(0x20, 0x20), (0x1680, 0x1680), (0x2000, 0x2006), (0x2008, 0x200A), (0x205F, 0x205F),
   (0x3000, 0x3000)]

/-- The classes with their names. -/
def named : List (List String × CharSet) :=
  [(["nl", "newline"], newline),
   (["extend"], extend),
   (["fo", "format"], format),
   (["ka", "katakana"], katakana),
   (["hl", "hebrewletter"], hebrewLetter),
   (["le", "aletter"], aLetter),
   (["sq", "singlequote"], singleQuote),
   (["dq", "doublequote"], doubleQuote),
   (["ml", "midletter"], midLetter),
   (["mn", "midnum"], midNum),
   (["mb", "midnumlet"], midNumLet),
   (["nu", "numeric"], numeric),
   (["ex", "extendnumlet"], extendNumLet),
   (["wsegspace"], wSegSpace),
   (["cr"], carriageReturn), (["lf"], lineFeed), (["zwj"], zeroWidthJoiner),
   (["ri", "regionalindicator"], regionalIndicator)]

end WordBreak

namespace SentenceBreak

/-- Separators of paragraphs other than the line feed and the carriage return. -/
def sep : CharSet := [(0x85, 0x85), (0x2028, 0x2029)]

/-- Characters that belong to the one before. -/
def extend : CharSet :=
  union (difference WordBreak.extend emojiModifier) zeroWidthJoiner

/-- White space other than separators of paragraphs. -/
def sp : CharSet := difference whiteSpace (ofRanges (lineFeed ++ carriageReturn ++ sep))

/-- Format characters that sentences pass over. -/
def format : CharSet :=
  difference Category.format
    (ofRanges (WordBreak.numberSigns ++ tagCharacters ++ [(0x200C, 0x200D)]))

/-- Lower-case letters; those of Georgian have no upper case in running text. -/
def lower : CharSet := difference lowercase [(0x345, 0x345), (0x10D0, 0x10FA), (0x10FD, 0x10FF)]

/-- Upper-case and title-case letters but for those of Georgian. -/
def upper : CharSet :=
  difference (union uppercase titlecaseLetter) [(0x1C90, 0x1CBA), (0x1CBD, 0x1CBF)]

/-- Other letters. -/
def oLetter : CharSet :=
  difference (union alphabetic [(0x5F3, 0x5F3)]) (ofRanges (lower ++ upper ++ extend))

/-- Digits, and signs that belong to numbers. -/
def numeric : CharSet := union WordBreak.numeric [(0x66C, 0x66C)]

/-- Full stops, which may also stand inside a sentence. -/
def aTerm : CharSet := [(0x2E, 0x2E), (0x2024, 0x2024), (0xFE52, 0xFE52), (0xFF0E, 0xFF0E)]

/-- Punctuation behind which a sentence goes on. -/
def sContinue : CharSet :=
  [(0x2C, 0x2D), (0x3A, 0x3B), (0x37E, 0x37E), (0x55D, 0x55D), (0x60C, 0x60D), (0x7F8, 0x7F8),
   (0x1802, 0x1802), (0x1808, 0x1808), (0x2013, 0x2014), (0x3001, 0x3001), (0xFE10, 0xFE11),
   (0xFE13, 0xFE14), (0xFE31, 0xFE32), (0xFE50, 0xFE51), (0xFE54, 0xFE55), (0xFE58, 0xFE58),
   (0xFE63, 0xFE63), (0xFF0C, 0xFF0D), (0xFF1A, 0xFF1B), (0xFF64, 0xFF64)]

/-- Punctuation that ends a sentence. -/
def sTerm : CharSet := difference sentenceTerminal aTerm

/-- Brackets and quotation marks. -/
def close : CharSet :=
  ofRanges (openPunctuation ++ closePunctuation ++ initialPunctuation ++ finalPunctuation ++
    [(0x22, 0x22), (0x27, 0x27), (0x275B, 0x2760), (0x2E00, 0x2E01), (0x2E06, 0x2E08),
     (0x2E0B, 0x2E0B), (0x1F676, 0x1F678)])

/-- The classes with their names. -/
def named : List (List String × CharSet) :=
  [(["se", "sep"], sep),
   (["ex", "extend"], extend),
   (["sp"], sp),
   (["fo", "format"], format),
   (["lo", "lower"], lower),
   (["up", "upper"], upper),
   (["le", "oletter"], oLetter),
   (["nu", "numeric"], numeric),
   (["at", "aterm"], aTerm),
   (["sc", "scontinue"], sContinue),
   (["st", "sterm"], sTerm),
   (["cl", "close"], close),
   (["cr"], carriageReturn), (["lf"], lineFeed)]

end SentenceBreak

end TreeQuery.Pattern
