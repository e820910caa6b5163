import Verdict.Unicode.Property
import Verdict.Unicode.Script

/-!
# Classes for finding boundaries in texts

The database divides characters by what they do at boundaries between graphemes, words and
sentences. Each division is a list of classes under their normalized names; most are formulas over
other properties.

* `graphemeBreaks`, `wordBreaks`, `sentenceBreaks`: the three divisions. What is in none of the
  classes of a division has no name there.
-/

namespace Verdict.Unicode

open GeneralCategory Property

namespace Segmentation

/-- The characters of the scripts with these names. -/
def ofScripts (names : List String) : CharClass :=
  .unions ((names.filterMap Script.find?).map Script.characters)

/-! ## 1. Characters that several divisions name -/

/-- The carriage return. -/
def carriageReturn : CharClass := .single 0x0D

/-- The line feed. -/
def lineFeed : CharClass := .single 0x0A

/-- The joiner without width. -/
def joiner : CharClass := .single 0x200D

/-- What extends the character before it, for words and sentences. -/
def extending : CharClass := .unions [graphemeExtend, spacingMark, emojiModifier]

/-- The full stop and its variants. -/
def fullStop : CharClass := .unions [.single 0x2E, .single 0x2024, .single 0xFE52, .single 0xFF0E]

/-- Marks written before a number that they span; the one written before letters is left out. -/
def numberMark : CharClass := .diff prependedConcatenationMark (.single 0x070F)

/-- Digits, the decimal separator of Arabic, a digit outside the decimal ones, and the marks that
    span numbers. -/
def numeric : CharClass :=
  .unions [decimalNumber, .single 0x066B, .single 0x19DA, numberMark]

/-! ## 2. Graphemes -/

/-- Controls and what is like them. -/
def graphemeControl : CharClass :=
  .diff (.unions [lineSeparator, paragraphSeparator, control, format,
      .inter unassigned defaultIgnorable])
    (.unions [carriageReturn, lineFeed, joiner, graphemeExtend, prependedConcatenationMark])

/-- Spacing marks that do not belong to the grapheme before them. -/
def separateMark : CharClass := .packed [
  0x00102B_00102C_001038_001038_001062_001064_001067_00106D_001083_001083_001087_00108C,
  0x00108F_00108F_00109A_00109C_001A61_001A61_001A63_001A64_00AA7B_00AA7B_00AA7D_00AA7D,
  0x011720_011721]

/-- Spacing marks that belong to the grapheme before them, and two vowels like them. -/
def graphemeSpacingMark : CharClass :=
  .union (.diff spacingMark (.union graphemeExtend separateMark))
    (.union (.single 0x0E33) (.single 0x0EB3))

/-- Signs and letters that belong to the grapheme after them. -/
def graphemePrepend : CharClass := .union prependedConcatenationMark (.packed [
    0x000D4E_000D4E_0111C2_0111C3_0113D1_0113D1_01193F_01193F_011941_011941_011A3A_011A3A,
    0x011A84_011A89_011D46_011D46_011F02_011F02])

/-- The code points of the Hangul syllables without a final consonant, one in every twenty-eight. -/
def openSyllable : CharClass :=
  .ranges ((List.range 399).map fun i => (0xAC00 + 28 * i, 0xAC00 + 28 * i))

end Segmentation

open Segmentation

/-- The classes for boundaries between graphemes. -/
def graphemeBreaks : List (List String × CharClass) := [
  (["control", "cn"], graphemeControl),
  (["cr"], carriageReturn),
  (["extend", "ex"], .diff (.union graphemeExtend emojiModifier) joiner),
  (["l"], .union (.range 0x1100 0x115F) (.range 0xA960 0xA97C)),
  (["lf"], lineFeed),
  (["lv"], openSyllable),
  (["lvt"], .diff (.range 0xAC00 0xD7A3) openSyllable),
  (["prepend", "pp"], graphemePrepend),
  (["regionalindicator", "ri"], regionalIndicator),
  (["spacingmark", "sm"], graphemeSpacingMark),
  (["t"], .union (.range 0x11A8 0x11FF) (.range 0xD7CB 0xD7FB)),
  (["v"], .union (.range 0x1160 0x11A7) (.range 0xD7B0 0xD7C6)),
  (["zwj"], joiner)]

/-! ## 3. Words -/

namespace Segmentation

/-- Letters of Hebrew. -/
def hebrewLetter : CharClass := .inter (ofScripts ["hebrew"]) otherLetter

/-- Katakana and the marks used with it. -/
def wordKatakana : CharClass :=
  .unions [ofScripts ["katakana"], .range 0x3031 0x3035, .range 0x309B 0x309C, .single 0x30A0,
    .single 0x30FC, .single 0xFF70]

/-- Signs that count as letters of words without being alphabetic. -/
def letterLike : CharClass := .packed [
  0x0002C2_0002C5_0002D2_0002D7_0002DE_0002DF_0002E5_0002EB_0002ED_0002ED_0002EF_0002FF,
  0x00055A_00055C_00055E_00055E_00058A_00058A_0005F3_0005F3_00070F_00070F_00A708_00A716,
  0x00A720_00A721_00A789_00A78A_00AB5B_00AB5B]

/-- Scripts that put no boundaries between words. -/
def unspacedScripts : List String := ["thai", "lao", "myanmar", "khmer", "taile", "newtailue",
  "taitham", "taiviet", "ahom", "hiragana"]

/-- Letters of words. -/
def wordLetter : CharClass :=
  .diff (.union alphabetic letterLike)
    (.unions [ofScripts unspacedScripts, ideographic, wordKatakana, hebrewLetter, extending])

/-- Punctuation between letters. -/
def midLetter : CharClass := .packed [
  0x00003A_00003A_0000B7_0000B7_000387_000387_00055F_00055F_0005F4_0005F4_002027_002027,
  0x00FE13_00FE13_00FE55_00FE55_00FF1A_00FF1A]

/-- Punctuation between digits. -/
def midNumber : CharClass := .packed [
  0x00002C_00002C_00003B_00003B_00037E_00037E_000589_000589_00060C_00060D_00066C_00066C,
  0x0007F8_0007F8_002044_002044_00FE50_00FE50_00FE54_00FE54_00FF0C_00FF0C_00FF1B_00FF1B]

/-- Punctuation between letters or digits. -/
def midNumberLetter : CharClass :=
  .unions [fullStop, .range 0x2018 0x2019, .single 0xFF07]

/-- Spaces between words. -/
def wordSpace : CharClass := .diff spaceSeparator
  (.unions [.single 0xA0, .single 0x2007, .single 0x202F])

end Segmentation

/-- The classes for boundaries between words. -/
def wordBreaks : List (List String × CharClass) := [
  (["aletter", "le"], wordLetter),
  (["cr"], carriageReturn),
  (["doublequote", "dq"], .single 0x22),
  (["extend"], .diff extending joiner),
  (["extendnumlet", "ex"], .union connectorPunctuation (.single 0x202F)),
  (["format", "fo"], .diff format (.unions [graphemeExtend, joiner, .single 0x200B,
    prependedConcatenationMark])),
  (["hebrewletter", "hl"], hebrewLetter),
  (["katakana", "ka"], wordKatakana),
  (["lf"], lineFeed),
  (["midletter", "ml"], midLetter),
  (["midnum", "mn"], midNumber),
  (["midnumlet", "mb"], midNumberLetter),
  (["newline", "nl"], .unions [.range 0x0B 0x0C, .single 0x85, .range 0x2028 0x2029]),
  (["numeric", "nu"], numeric),
  (["regionalindicator", "ri"], regionalIndicator),
  (["singlequote", "sq"], .single 0x27),
  (["wsegspace"], wordSpace),
  (["zwj"], joiner)]

/-! ## 4. Sentences -/

namespace Segmentation

/-- Lowercase letters of sentences; Georgian ones do not count. -/
def sentenceLower : CharClass :=
  .diff lowercase (.unions [graphemeExtend, .range 0x10D0 0x10FA, .range 0x10FD 0x10FF])

/-- Uppercase letters of sentences; Georgian ones do not count. -/
def sentenceUpper : CharClass :=
  .diff (.union uppercase titlecaseLetter) (.union (.range 0x1C90 0x1CBA) (.range 0x1CBD 0x1CBF))

/-- Other letters of sentences. -/
def sentenceLetter : CharClass :=
  .diff (.union alphabetic (.single 0x05F3)) (.unions [sentenceLower, sentenceUpper, extending])

/-- Quotes and brackets. -/
def sentenceClose : CharClass :=
  .unions [openPunctuation, closePunctuation, initialPunctuation, finalPunctuation,
    .packed [
      0x000022_000022_000027_000027_00275B_002760_002E00_002E01_002E06_002E08_002E0B_002E0B,
      0x01F676_01F678]]

/-- Punctuation inside sentences. -/
def sentenceContinue : CharClass := .packed [
  0x00002C_00002D_00003A_00003B_00037E_00037E_00055D_00055D_00060C_00060D_0007F8_0007F8,
  0x001802_001802_001808_001808_002013_002014_003001_003001_00FE10_00FE11_00FE13_00FE14,
  0x00FE31_00FE32_00FE50_00FE51_00FE54_00FE55_00FE58_00FE58_00FE63_00FE63_00FF0C_00FF0D,
  0x00FF1A_00FF1B_00FF64_00FF64]

/-- Spaces and tabs. -/
def sentenceSpace : CharClass := .unions [spaceSeparator, .single 0x09, .range 0x0B 0x0C]

end Segmentation

/-- The classes for boundaries between sentences. -/
def sentenceBreaks : List (List String × CharClass) := [
  (["aterm", "at"], fullStop),
  (["cr"], carriageReturn),
  (["close", "cl"], sentenceClose),
  (["extend", "ex"], .unions [graphemeExtend, spacingMark, joiner]),
  (["format", "fo"], .diff format (.unions [graphemeExtend, joiner, numberMark])),
  (["lf"], lineFeed),
  (["lower", "lo"], sentenceLower),
  (["numeric", "nu"], .union numeric (.single 0x066C)),
  (["oletter", "le"], sentenceLetter),
  (["scontinue", "sc"], sentenceContinue),
  (["sterm", "st"], .diff sentenceTerminal fullStop),
  (["sep", "se"], .union (.single 0x85) (.range 0x2028 0x2029)),
  (["sp"], sentenceSpace),
  (["upper", "up"], sentenceUpper)]

end Verdict.Unicode
