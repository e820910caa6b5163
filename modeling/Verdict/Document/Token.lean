import Verdict.Text.Blank
import Verdict.Text.Quoted

/-!
# Tokens of a tag-structured document

A document is a sequence of tokens. An element is an opening tag with its attributes, then its
body -- texts and child elements, in order -- and a closing boundary.

* `Attribute`, `Token`: what a document is made of;
* `Token.display`: how a token is named in an error text;
* `Token.isBlankText`: the texts that may stand between elements.
-/

namespace Verdict

/-- A name with a value, attached to an opening tag. -/
structure Attribute where
  name : String
  value : String
  deriving DecidableEq

/-- One event of a document. -/
inductive Token where
  /-- The start of an element, with its attributes in document order. -/
  | opening (name : String) (attributes : List Attribute)
  /-- A piece of text inside the innermost open element. -/
  | text (content : String)
  /-- The end of the innermost open element. -/
  | closing
  deriving DecidableEq

namespace Token

/-- The name of a token in error texts. -/
def display : Token → String
  | .opening name _ => s!"<{name}>"
  | .text content => s!"text {Text.quoted content}"
  | .closing => "closing tag"

/-- Text of whitespace only. -/
def isBlankText : Token → Bool
  | .text content => Text.isBlank content
  | _ => false

@[simp] theorem isBlankText_opening (name : String) (attributes : List Attribute) :
    (opening name attributes).isBlankText = false := rfl

@[simp] theorem isBlankText_text (content : String) :
    (text content).isBlankText = Text.isBlank content := rfl

@[simp] theorem isBlankText_closing : closing.isBlankText = false := rfl

end Token

end Verdict
