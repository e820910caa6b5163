import Verdict.Matcher.Method
import Verdict.Regex.Grammar
import Verdict.Text.Diacritic

/-!
# The options of a text matcher

* `MatchOptions`: a pattern, how it is understood, and how texts are prepared for it;
* `MatchOptions.regex`: the regular expression that the options amount to.
-/

namespace Verdict

/-- What a text matcher is told. -/
structure MatchOptions where
  method : MatchMethod := .basic
  /-- The pattern; without one, every text matches. -/
  pattern : Option String := none
  /-- Letters match in either case. -/
  ignoreCase : Bool := false
  /-- Pattern and texts are compared without diacritics. -/
  ignoreDiacritic : Bool := false
  /-- A part of a text may match, not only the whole text. -/
  anywhere : Bool := false
  /-- Whitespace at the ends of a text is dropped first. -/
  trim : Bool := false
  /-- The empty text matches; otherwise it does not, whatever the pattern says. -/
  matchEmpty : Bool := false
  deriving DecidableEq

namespace MatchOptions

/-- A text as it is compared. -/
def prepare (o : MatchOptions) (s : List Char) : List Char :=
  if o.ignoreDiacritic then Text.stripChars s else s

/-- The expression for a pattern, as text: for a whole text, it is held between the two ends. -/
def expression (o : MatchOptions) (pattern : List Char) : List Char :=
  let body := o.method.expression (o.prepare pattern)
  if o.anywhere then body else "^(?:".toList ++ body ++ ")$".toList

/-- The modes that an expression starts with. -/
def flags (o : MatchOptions) : Pattern.Flags := { ignoreCase := o.ignoreCase, dotAll := true }

/-- The regular expression that the options amount to; none if there is no pattern. -/
def regex (o : MatchOptions) : Except MatcherError (Option Regex) :=
  match o.pattern with
  | none => .ok none
  | some pattern =>
    match Regex.compile? o.flags (o.expression pattern.toList) with
    | some r => .ok (some r)
    | none => .error .invalidPattern

end MatchOptions

end Verdict
