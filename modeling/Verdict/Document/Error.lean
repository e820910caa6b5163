import Verdict.Document.Token

/-!
# What can be wrong with a document

* `DocumentError`: the causes for which reading or writing a document stops;
* `DocumentError.message`: the text of each.
-/

namespace Verdict

/-- The causes for which reading or writing a document stops. -/
inductive DocumentError where
  /-- The text is not a document, or the source of tokens broke down. -/
  | malformed (detail : String)
  /-- The tokens ended where something was still due. -/
  | unexpectedEnd (expected : String)
  /-- A token stands where something else was due. -/
  | unexpectedToken (found : Token) (expected : String)
  /-- An element lacks an attribute that it must have. -/
  | missingAttribute (tag name : String)
  /-- An element has an attribute that it must not have. -/
  | unknownAttribute (tag name : String)
  /-- An attribute has a value outside its range. -/
  | invalidAttribute (tag name value : String)
  /-- A close without an open element, or an end inside one. -/
  | unbalanced
  deriving DecidableEq

/-- The text of an error. -/
def DocumentError.message : DocumentError → String
  | .malformed detail => s!"syntax error: {detail}"
  | .unexpectedEnd expected => s!"unexpected end of document, expected {expected}"
  | .unexpectedToken found expected => s!"unexpected {found.display}, expected {expected}"
  | .missingAttribute tag name => s!"<{tag}> is missing required attribute '{name}'"
  | .unknownAttribute tag name => s!"<{tag}> does not accept attribute '{name}'"
  | .invalidAttribute tag name value =>
    s!"<{tag}> has invalid value '{value}' for attribute '{name}'"
  | .unbalanced =>
    "unbalanced tags: close without a matching open, or open tags left unclosed"

end Verdict
