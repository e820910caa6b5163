import Verdict.Unicode.Property

/-!
# Regular expressions

* `Assertion`: what an expression can demand of the place between two characters;
* `Assertion.holds`: whether a place meets the demand, by the characters before and after it;
* `Regex`: an expression -- one character of a class, an assertion, or a combination.

An expression says only which parts of a text it matches; which of several matches is preferred, and
what a group captures, is not kept.
-/

namespace Verdict

open Unicode (CharClass)

/-- What a word assertion demands of the two sides of a place. -/
inductive WordAssertion where
  /-- A word character on exactly one side. -/
  | boundary
  /-- A word character on both sides or on neither. -/
  | inside
  /-- A word character after the place only. -/
  | wordStart
  /-- A word character before the place only. -/
  | wordEnd
  /-- No word character before the place. -/
  | halfStart
  /-- No word character after the place. -/
  | halfEnd
  deriving DecidableEq

/-- What an expression can demand of a place in a text. -/
inductive Assertion where
  | textStart
  | textEnd
  /-- The start of a line; with `crlf`, a carriage return ends lines too, alone or before a line
      feed. -/
  | lineStart (crlf : Bool)
  /-- The end of a line, with lines as in `lineStart`. -/
  | lineEnd (crlf : Bool)
  /-- A demand on the word characters around the place, all of them or those of ASCII only. -/
  | word (kind : WordAssertion) (ascii : Bool)
  deriving DecidableEq

/-- The word characters of ASCII: letters, digits and the underscore. -/
def asciiWord : CharClass :=
  .unions [.range 0x30 0x39, .range 0x41 0x5A, .single 0x5F, .range 0x61 0x7A]

open Unicode in
/-- The word characters: letters, marks, decimal digits, connecting punctuation and joiners. -/
def unicodeWord : CharClass :=
  .unions [Property.alphabetic, GeneralCategory.mark, GeneralCategory.decimalNumber,
    GeneralCategory.connectorPunctuation, Property.joinControl]

namespace WordAssertion

/-- Whether the demand is met, given whether word characters stand before and after the place. -/
def holds (before after : Bool) : WordAssertion → Bool
  | boundary => before != after
  | inside => before == after
  | wordStart => !before && after
  | wordEnd => before && !after
  | halfStart => !before
  | halfEnd => !after

end WordAssertion

namespace Assertion

/-- Whether there is a character and it is in the class. -/
def among (c : CharClass) : Option Char → Bool
  | none => false
  | some x => c.contains x.toNat

/-- Whether the demand is met between the characters `before` and `after`, none at an end of the
    text. -/
def holds (before after : Option Char) : Assertion → Bool
  | textStart => before.isNone
  | textEnd => after.isNone
  | lineStart false => before.isNone || before == some '\n'
  | lineStart true =>
    before.isNone || before == some '\n' || (before == some '\r' && after != some '\n')
  | lineEnd false => after.isNone || after == some '\n'
  | lineEnd true =>
    after.isNone || after == some '\r' || (after == some '\n' && before != some '\r')
  | word kind ascii =>
    let c := if ascii then asciiWord else unicodeWord
    kind.holds (among c before) (among c after)

end Assertion

/-- A regular expression. -/
inductive Regex where
  /-- The empty text. -/
  | empty
  /-- One character of the class. -/
  | one (c : CharClass)
  /-- The empty text at a place that meets the demand. -/
  | assert (a : Assertion)
  | seq (r s : Regex)
  | alt (r s : Regex)
  /-- The expression at least `least` times in a row, and at most `most` times, if that is given. -/
  | iterate (r : Regex) (least : Nat) (most : Option Nat)

namespace Regex

/-- Several expressions in a row. -/
def sequence : List Regex → Regex
  | [] => empty
  | [r] => r
  | r :: rest => seq r (sequence rest)

/-- Any of several expressions; the empty text if there is none. -/
def alternation : List Regex → Regex
  | [] => empty
  | [r] => r
  | r :: rest => alt r (alternation rest)

end Regex

end Verdict
