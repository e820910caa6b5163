import Verdict.Matcher.Options
import Verdict.Regex.Matching
import Verdict.Text.Quoted

/-!
# Text matchers

A text matcher holds a text against a pattern.

* `TextMatcher`: options whose regular expression was made;
* `MatchOptions.compile`: the matcher of the options, if their pattern is sound;
* `TextMatcher.any`, `basic`, `csv`, `wildcard`, `regular`: matchers with no options but a pattern;
* `TextMatcher.accepts`: whether a text matches.
-/

namespace Verdict

/-- A test of texts: options, and the regular expression that they amount to. -/
structure TextMatcher where
  options : MatchOptions
  regex : Option Regex
  compiled : options.regex = .ok regex

/-- The matcher of the options, if their pattern is sound. -/
def MatchOptions.compile (o : MatchOptions) : Except MatcherError TextMatcher :=
  match h : o.regex with
  | .ok regex => .ok ⟨o, regex, h⟩
  | .error e => .error e

namespace TextMatcher

/-- The options determine the matcher. -/
theorem ext {a b : TextMatcher} (h : a.options = b.options) : a = b := by
  obtain ⟨o, r, hr⟩ := a
  obtain ⟨o', r', hr'⟩ := b
  cases h
  rw [hr] at hr'
  cases hr'
  rfl

instance : DecidableEq TextMatcher := fun a b =>
  if h : a.options = b.options then .isTrue (ext h)
  else .isFalse fun e => h (congrArg options e)

/-- The matcher that every text passes. -/
def any : TextMatcher := ⟨{}, none, rfl⟩

/-- The matcher of a pattern, with no other options. -/
def ofPattern (method : MatchMethod) (pattern : String) : Except MatcherError TextMatcher :=
  MatchOptions.compile { method, pattern := some pattern }

/-- The matcher of one text. -/
def basic (pattern : String) : Except MatcherError TextMatcher := ofPattern .basic pattern

/-- The matcher of several texts with commas between them. -/
def csv (pattern : String) : Except MatcherError TextMatcher := ofPattern .csv pattern

/-- The matcher of a text with wildcards. -/
def wildcard (pattern : String) : Except MatcherError TextMatcher := ofPattern .wildcard pattern

/-- The matcher of a regular expression. -/
def regular (pattern : String) : Except MatcherError TextMatcher := ofPattern .regex pattern

/-- Whether a text matches. -/
def accepts (m : TextMatcher) (text : String) : Bool :=
  match m.regex with
  | none => true
  | some r =>
    let content := if m.options.trim then Text.trimChars text.toList else text.toList
    if content.isEmpty then m.options.matchEmpty else r.isMatch (m.options.prepare content)

/-- A matcher in one line: its method and its pattern, or a star if it has no pattern. -/
def display (m : TextMatcher) : String :=
  match m.options.pattern with
  | some pattern => s!"{m.options.method.name}({Text.quoted pattern})"
  | none => "*"

end TextMatcher

end Verdict
