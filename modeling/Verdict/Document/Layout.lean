import Verdict.Document.Sink

/-!
# Laying out a document as text

An element is its name, then its attributes in parentheses, then its body in braces:

    anyOf {
        condition(method = "wildcard") {
            "*.pdf"
        }
        allOf
    }

* `Layout`: the text so far, and for each open element whether its brace was written;
* `Layout.put`: one token, which fails where it has no open element to belong to;
* `Layout.finish`: the text, once every element is closed;
* `textLiteral`: the quoted form of a text or an attribute value.

The brace of a body is written with the first thing in it, so an element without one stands bare.
-/

namespace Verdict

/-- The escape of one character inside a quoted text. -/
def escapeChar : Char → List Char
  | '"' => ['\\', '"']
  | '\\' => ['\\', '\\']
  | '\n' => ['\\', 'n']
  | '\t' => ['\\', 't']
  | c => [c]

/-- A text between quotes, in the form the grammar of documents reads back. -/
def textLiteral (content : String) : String :=
  String.ofList ('"' :: content.toList.flatMap escapeChar ++ ['"'])

/-- A text document in the making. -/
structure Layout where
  text : String := ""
  /-- One entry per open element, innermost first: whether its brace was written. -/
  bodies : List Bool := []

namespace Layout

/-- Writes the brace of the innermost open element, unless it is there already. -/
def beginBody (l : Layout) : Layout :=
  match l.bodies with
  | false :: outer => { text := l.text ++ " \x7b\n", bodies := true :: outer }
  | _ => l

/-- Four blanks for each open element. -/
def indentation (l : Layout) : String :=
  String.ofList (List.replicate (4 * l.bodies.length) ' ')

/-- The attributes of an opening tag: nothing, or a list in parentheses. -/
def attributeList : List Attribute → String
  | [] => ""
  | attributes =>
    "(" ++ String.intercalate ", " (attributes.map fun a => a.name ++ " = " ++ textLiteral a.value)
      ++ ")"

/-- Writes one token. Text and close need an open element. -/
def put? (l : Layout) : Token → Option Layout
  | .opening name attributes =>
    let l := l.beginBody
    some { text := l.text ++ l.indentation ++ name ++ attributeList attributes,
           bodies := false :: l.bodies }
  | .text content =>
    if l.bodies.isEmpty then none
    else
      let l := l.beginBody
      some { l with text := l.text ++ l.indentation ++ textLiteral content ++ "\n" }
  | .closing =>
    match l.bodies with
    | [] => none
    | false :: outer => some { text := l.text ++ "\n", bodies := outer }
    | true :: outer =>
      let closed : Layout := { l with bodies := outer }
      some { closed with text := l.text ++ closed.indentation ++ "\x7d\n" }

/-- The layout as a sink; a token that has no place leaves it as it was. -/
def put : Sink Layout := fun token => do
  match (← get).put? token with
  | some l => set l
  | none => throw .unbalanced

/-- The text, once every element is closed. -/
def finish (l : Layout) : Except DocumentError String :=
  if l.bodies.isEmpty then .ok l.text else .error .unbalanced

/-- The text of a sequence of tokens. -/
def ofTokens (tokens : List Token) : Except DocumentError String :=
  match (tokens.forM put).result {} with
  | (.ok (), l) => l.finish
  | (.error e, _) => .error e

end Layout

end Verdict
