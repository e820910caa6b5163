import Verdict.Document.Grammar

/-!
# The grammar of text documents, as rules

    document   := ws element ws
    element    := ident [ws attributes] [ws body]
    attributes := "(" ws [attribute (ws "," ws attribute)*] ws ")"
    attribute  := ident ws "=" ws string
    body       := "\x7b" (ws (string | element))* ws "\x7d"

Every rule relates the characters ahead, what they say, and the characters behind them:

* `Blanks`, `Ident`, `Quoted`: the lexemes `ws`, `ident` and `string`;
* `Name`: the identifiers that no further character of one follows;
* `AttributeText`, `AttributesText`: attributes;
* `ElementText`, `ItemsText`: elements and bodies, with a bound on the levels of elements;
* `DocumentText`: a whole document, with the tokens that it says.

No rule says how a text is read: where blanks end and which optional parts are taken is left open.
With `Ident`, it is also left open where an identifier ends, and `ab` in a body is one element or
two; with `Name`, it is one. The rules take either as a parameter.
-/

namespace Verdict.Grammar

/-! ## 1. Lexemes -/

/-- Where a comment ends: before a line feed, before a carriage return with a line feed, and at the
    end of the text. -/
inductive LineEnd : List Char → Prop
  | endOfText : LineEnd []
  | lineFeed (rest : List Char) : LineEnd ('\n' :: rest)
  | returnAndFeed (rest : List Char) : LineEnd ('\r' :: '\n' :: rest)

/-- Whitespace and comments in any mixture. A comment runs from `#` to the end of its line; no line
    feed and no carriage return is in it. -/
inductive Blanks : List Char → List Char → Prop
  | none (s : List Char) : Blanks s s
  | space {c : Char} {s rest : List Char} (hc : c ∈ [' ', '\t', '\n', '\x0c', '\r'])
      (h : Blanks s rest) : Blanks (c :: s) rest
  | comment {content after rest : List Char} (hline : ∀ c ∈ content, c ≠ '\n' ∧ c ≠ '\r')
      (hend : LineEnd after) (h : Blanks after rest) : Blanks ('#' :: content ++ after) rest

/-- An identifier: a letter or an underscore, then any number of letters, digits, underscores,
    periods, colons and hyphens. -/
inductive Ident : List Char → String → List Char → Prop
  | mk {c : Char} {part rest : List Char} (hc : isNameStart c = true)
      (hpart : ∀ d ∈ part, isNamePart d = true) :
      Ident (c :: part ++ rest) (String.ofList (c :: part)) rest

/-- A name: an identifier that no further character of one follows. -/
inductive Name : List Char → String → List Char → Prop
  | mk {c : Char} {part rest : List Char} (hc : isNameStart c = true)
      (hpart : ∀ d ∈ part, isNamePart d = true)
      (hend : ∀ d, rest.head? = some d → isNamePart d = false) :
      Name (c :: part ++ rest) (String.ofList (c :: part)) rest

/-- What a backslash and the character after it say: four pairs stand for one character, any other
    for its two. -/
inductive EscapePair : Char → List Char → Prop
  | quote : EscapePair '"' ['"']
  | backslash : EscapePair '\\' ['\\']
  | lineFeed : EscapePair 'n' ['\n']
  | tab : EscapePair 't' ['\t']
  | other {c : Char} (hc : c ∉ ['"', '\\', 'n', 't']) : EscapePair c ['\\', c]

/-- The characters of a string behind its first quote: characters and backslash pairs up to the
    first quote that is neither. -/
inductive Quoted : List Char → List Char → List Char → Prop
  | close (rest : List Char) : Quoted ('"' :: rest) [] rest
  | char {c : Char} {s content rest : List Char} (hquote : c ≠ '"') (hbackslash : c ≠ '\\')
      (h : Quoted s content rest) : Quoted (c :: s) (c :: content) rest
  | pair {c : Char} {said s content rest : List Char} (hc : EscapePair c said)
      (h : Quoted s content rest) : Quoted ('\\' :: c :: s) (said ++ content) rest

/-! ## 2. Attributes -/

section Rules

variable (ident : List Char → String → List Char → Prop)

/-- `ident ws "=" ws string` -/
inductive AttributeText : List Char → Attribute → List Char → Prop
  | mk {s s₁ s₂ s₃ rest : List Char} {name : String} {value : List Char} (hname : ident s name s₁)
      (hequals : Blanks s₁ ('=' :: s₂)) (hquote : Blanks s₂ ('"' :: s₃))
      (hvalue : Quoted s₃ value rest) : AttributeText s ⟨name, String.ofList value⟩ rest

/-- `(ws "," ws attribute)* ws ")"` -/
inductive MoreAttributesText : List Char → List Attribute → List Char → Prop
  | close {s rest : List Char} (h : Blanks s (')' :: rest)) : MoreAttributesText s [] rest
  | more {s s₁ s₂ s₃ rest : List Char} {a : Attribute} {as : List Attribute}
      (hcomma : Blanks s (',' :: s₁)) (hblanks : Blanks s₁ s₂) (ha : AttributeText ident s₂ a s₃)
      (has : MoreAttributesText s₃ as rest) : MoreAttributesText s (a :: as) rest

/-- `[ws "(" ws [attribute (ws "," ws attribute)*] ws ")"]` -/
inductive AttributesText : List Char → List Attribute → List Char → Prop
  | absent (s : List Char) : AttributesText s [] s
  | empty {s s₁ rest : List Char} (hopen : Blanks s ('(' :: s₁))
      (hclose : Blanks s₁ (')' :: rest)) : AttributesText s [] rest
  | some {s s₁ s₂ s₃ rest : List Char} {a : Attribute} {as : List Attribute}
      (hopen : Blanks s ('(' :: s₁)) (hblanks : Blanks s₁ s₂) (ha : AttributeText ident s₂ a s₃)
      (has : MoreAttributesText ident s₃ as rest) : AttributesText s (a :: as) rest

/-! ## 3. Elements -/

mutual

/-- An element with at most so many levels of elements, itself included, and its tokens. -/
inductive ElementText : Nat → List Char → List Token → List Char → Prop
  | bare {levels : Nat} {s s₁ rest : List Char} {name : String} {attributes : List Attribute}
      (hname : ident s name s₁) (hattributes : AttributesText ident s₁ attributes rest) :
      ElementText (levels + 1) s [.opening name attributes, .closing] rest
  | braced {levels : Nat} {s s₁ s₂ s₃ rest : List Char} {name : String}
      {attributes : List Attribute} {body : List Token} (hname : ident s name s₁)
      (hattributes : AttributesText ident s₁ attributes s₂) (hopen : Blanks s₂ ('\x7b' :: s₃))
      (hbody : ItemsText levels s₃ body rest) :
      ElementText (levels + 1) s (.opening name attributes :: body ++ [.closing]) rest

/-- `(ws (string | element))* ws "\x7d"`, with the tokens of the strings and elements. -/
inductive ItemsText : Nat → List Char → List Token → List Char → Prop
  | close {levels : Nat} {s rest : List Char} (h : Blanks s ('\x7d' :: rest)) :
      ItemsText levels s [] rest
  | string {levels : Nat} {s s₁ s₂ rest content : List Char} {others : List Token}
      (hquote : Blanks s ('"' :: s₁)) (hcontent : Quoted s₁ content s₂)
      (hothers : ItemsText levels s₂ others rest) :
      ItemsText levels s (.text (String.ofList content) :: others) rest
  | element {levels : Nat} {s s₁ s₂ rest : List Char} {tokens others : List Token}
      (hblanks : Blanks s s₁) (helement : ElementText levels s₁ tokens s₂)
      (hothers : ItemsText levels s₂ others rest) : ItemsText levels s (tokens ++ others) rest

end

/-- A document and its tokens: `ws element ws`, with at most `maxNesting` levels of elements. -/
inductive DocumentText : List Char → List Token → Prop
  | mk {s s₁ s₂ : List Char} {tokens : List Token} (hbefore : Blanks s s₁)
      (helement : ElementText ident maxNesting s₁ tokens s₂) (hafter : Blanks s₂ []) :
      DocumentText s tokens

end Rules

/-! ## 4. Blanks in front -/

theorem Blanks.trans {s s₁ rest : List Char} (h : Blanks s s₁) (h₁ : Blanks s₁ rest) :
    Blanks s rest := by
  induction h with
  | none => exact h₁
  | space hc _ ih => exact .space hc (ih h₁)
  | comment hline hend _ ih => exact .comment hline hend (ih h₁)

/-- Blanks before a body change nothing. -/
theorem itemsText_of_blanks {ident : List Char → String → List Char → Prop} {levels : Nat}
    {s s₁ rest : List Char} {body : List Token} (hblanks : Blanks s s₁)
    (h : ItemsText ident levels s₁ body rest) : ItemsText ident levels s body rest := by
  cases h with
  | close h => exact .close (hblanks.trans h)
  | string hquote hcontent hothers => exact .string (hblanks.trans hquote) hcontent hothers
  | element h helement hothers => exact .element (hblanks.trans h) helement hothers

/-! ## 5. More identifiers -/

/-- Every identifier of the one kind is one of the other. -/
def Covers (more ident : List Char → String → List Char → Prop) : Prop :=
  ∀ s name rest, ident s name rest → more s name rest

section Covers

variable {ident more : List Char → String → List Char → Prop}

theorem AttributeText.mono (hmore : Covers more ident) {s rest : List Char} {a : Attribute}
    (h : AttributeText ident s a rest) : AttributeText more s a rest := by
  cases h with
  | mk hname hequals hquote hvalue => exact .mk (hmore _ _ _ hname) hequals hquote hvalue

theorem MoreAttributesText.mono (hmore : Covers more ident) {s rest : List Char}
    {as : List Attribute} (h : MoreAttributesText ident s as rest) :
    MoreAttributesText more s as rest := by
  induction h with
  | close h => exact .close h
  | more hcomma hblanks ha _ ih => exact .more hcomma hblanks (ha.mono hmore) ih

theorem AttributesText.mono (hmore : Covers more ident) {s rest : List Char}
    {as : List Attribute} (h : AttributesText ident s as rest) : AttributesText more s as rest := by
  cases h with
  | absent => exact .absent _
  | empty hopen hclose => exact .empty hopen hclose
  | some hopen hblanks ha has => exact .some hopen hblanks (ha.mono hmore) (has.mono hmore)

mutual

theorem ElementText.mono (hmore : Covers more ident) {levels : Nat} {s rest : List Char}
    {tokens : List Token} (h : ElementText ident levels s tokens rest) :
    ElementText more levels s tokens rest := by
  match h with
  | .bare hname hattributes => exact .bare (hmore _ _ _ hname) (hattributes.mono hmore)
  | .braced hname hattributes hopen hbody =>
    exact .braced (hmore _ _ _ hname) (hattributes.mono hmore) hopen (hbody.mono hmore)

theorem ItemsText.mono (hmore : Covers more ident) {levels : Nat} {s rest : List Char}
    {body : List Token} (h : ItemsText ident levels s body rest) :
    ItemsText more levels s body rest := by
  match h with
  | .close h => exact .close h
  | .string hquote hcontent hothers => exact .string hquote hcontent (hothers.mono hmore)
  | .element hblanks helement hothers =>
    exact .element hblanks (helement.mono hmore) (hothers.mono hmore)

end

/-- With more identifiers, the rules derive no less. -/
theorem DocumentText.mono (hmore : Covers more ident) {s : List Char} {tokens : List Token}
    (h : DocumentText ident s tokens) : DocumentText more s tokens := by
  cases h with
  | mk hbefore helement hafter => exact .mk hbefore (helement.mono hmore) hafter

end Covers

end Verdict.Grammar
