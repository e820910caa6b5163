import Verdict.Leaf.Codec
import Verdict.Matcher.Basic
import Verdict.Registry

/-!
# Text matchers as leaves

The element of a text matcher is named `condition`; its body is the pattern, its attributes are the
options that differ from the defaults:

    condition(method = "wildcard", ignoreCase = "true") { "*.pdf" }
-/

namespace Verdict.TextMatcher

/-- The attribute that names the method. -/
def methodAttribute : String := "method"

/-- The attributes of the yes-or-no options, with what each says. -/
def flagAttributes (o : MatchOptions) : List (String × Bool) := [
  ("ignoreCase", o.ignoreCase),
  ("ignoreDiacritic", o.ignoreDiacritic),
  ("partial", o.anywhere),
  ("trim", o.trim),
  ("matchEmpty", o.matchEmpty)]

/-- The names of all attributes. -/
def attributeNames : List String := methodAttribute :: (flagAttributes {}).map (·.1)

/-- The options that the attributes of an element give, without a pattern. -/
def readOptions (e : LeafElement) : Except LeafError MatchOptions := do
  (e.only attributeNames).mapError .document
  let method ← match e.attribute? methodAttribute with
    | some name => (MatchMethod.ofName name).mapError .matcher
    | none => pure .basic
  let flag (name : String) : Except LeafError Bool := (e.flag name false).mapError .document
  let ignoreCase ← flag "ignoreCase"
  let ignoreDiacritic ← flag "ignoreDiacritic"
  let anywhere ← flag "partial"
  let trim ← flag "trim"
  let matchEmpty ← flag "matchEmpty"
  return { method, ignoreCase, ignoreDiacritic, anywhere, trim, matchEmpty }

/-- Reads the element of a text matcher, up to its end. -/
def readElement (e : LeafElement) : TokenReader LeafError TextMatcher := do
  let options ← Consumer.ofExcept (readOptions e)
  let pattern ← LeafElement.text
  Consumer.ofExcept
    ((MatchOptions.compile { options with pattern }).mapError .matcher)

/-- Writes attributes and body of a text matcher. -/
def writeElement (m : TextMatcher) : Writing LeafDraft LeafError Unit := do
  if m.options.method ≠ .basic then
    modify (·.addAttribute methodAttribute m.options.method.name)
  (flagAttributes m.options).forM fun (name, set) =>
    if set then modify (·.addAttribute name "true") else pure ()
  match m.options.pattern with
  | some pattern => (LeafDraft.put (.text pattern)).mapError .document
  | none => pure ()

instance : LeafCodec TextMatcher where
  tag _ := conditionTag
  read := readElement
  write := writeElement

end Verdict.TextMatcher
