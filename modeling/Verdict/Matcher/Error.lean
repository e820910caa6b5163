/-!
# What can be wrong with a text matcher

* `MatcherError`: the causes for which a text matcher cannot be built, with their texts.
-/

namespace Verdict

/-- The causes for which a text matcher cannot be built. -/
inductive MatcherError where
  /-- The pattern is not a regular expression. -/
  | invalidPattern
  /-- No match method has this name. -/
  | unknownMethod (name : String)
  deriving DecidableEq

/-- The text of an error. -/
def MatcherError.message : MatcherError → String
  | .invalidPattern => "invalid pattern"
  | .unknownMethod name =>
    s!"unknown match method '{name}'; expected basic, csv, wildcard or regex"

end Verdict
