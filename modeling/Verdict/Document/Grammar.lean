import Verdict.Consumer
import Verdict.Document.Error
import Verdict.Document.Location

/-!
# The text format of documents

A document is one element with blanks around it. An element is a name, then, if there are any, its
attributes in parentheses and its body in braces; a body holds quoted texts and elements. Blanks
are ASCII whitespace and comments, which run from `#` to the end of the line.

* `skipBlanks`, `literalBody`, `nameRest`: the lexemes;
* `attributesRest`, `bodyRest`, `elementRest`, `document`: the phrases of the grammar; the first
  three start behind the character that announces them;
* `parse`: the tokens of a text document.

Every phrase is a `Consumer` of characters. A phrase fails with a `Mismatch`: what was due, and the
characters from the place where it was due. Elements recurse on the number of levels that they may
still open; the items of a body and the attributes of a tag are `Consumer.items`.
-/

namespace Verdict

/-- The deepest nesting of elements in a text document. -/
def maxNesting : Nat := 256

namespace Grammar

/-! ## 1. What can be due -/

/-- What a phrase was looking for where the text goes wrong. -/
inductive Due where
  | tagName
  | attributeName
  | equalsSign
  | attributeValue
  /-- A comma, or the end of the attributes. -/
  | attributeEnd
  /-- A text, an element, or the end of a body. -/
  | bodyItem
  /-- The quote that ends a text. -/
  | textEnd
  /-- Nothing: an element begins here, but too deep. -/
  | shallowerElement
  /-- The end of the document. -/
  | documentEnd
  deriving DecidableEq

/-- How an error names what was due; some places are left without a name. -/
def Due.explanation : Due → String
  | .tagName => "expected tag name"
  | .attributeName => "expected attribute name"
  | .equalsSign => ""
  | .attributeValue => "expected quoted attribute value"
  | .attributeEnd => ""
  | .bodyItem => "expected element, text, or '\x7d'"
  | .textEnd => ""
  | .shallowerElement => "invalid element, nested too deeply"
  | .documentEnd => ""

/-- Where a text stops being a document: what was due, and the characters from that place on. -/
structure Mismatch where
  due : Due
  rest : List Char
  deriving DecidableEq

/-- A phrase of the grammar. -/
abbrev Phrase (α : Type) := Consumer (List Char) Mismatch α

/-! ## 2. Lexemes -/

/-- ASCII whitespace. -/
def isSpace (c : Char) : Bool :=
  c == ' ' || c == '\t' || c == '\n' || c == '\x0c' || c == '\r'

/-- The first character of a name. -/
def isNameStart (c : Char) : Bool := c.isAlpha || c == '_'

/-- The further characters of a name. -/
def isNamePart (c : Char) : Bool :=
  c.isAlphanum || c == '_' || c == '.' || c == ':' || c == '-'

/-- What follows a comment, from its line end on. There is no comment if the line end is a carriage
    return that no line feed follows. -/
def afterComment : List Char → Option (List Char)
  | [] => some []
  | '\n' :: rest => some ('\n' :: rest)
  | '\r' :: '\n' :: rest => some ('\r' :: '\n' :: rest)
  | '\r' :: _ => none
  | _ :: rest => afterComment rest

theorem length_afterComment {s rest : List Char} (h : afterComment s = some rest) :
    rest.length ≤ s.length := by
  fun_induction afterComment s with
  | case1 => simp_all
  | case2 => simp_all
  | case3 => simp_all
  | case4 => simp at h
  | case5 c s _ _ _ ih => exact Nat.le_succ_of_le (ih h)

/-- What follows the whitespace and the comments ahead. -/
def skipBlanks (s : List Char) : List Char :=
  match s with
  | [] => []
  | c :: rest =>
    if isSpace c then skipBlanks rest
    else if c = '#' then
      match _ended : afterComment rest with
      | some rest' => skipBlanks rest'
      | none => c :: rest
    else c :: rest
termination_by s.length
decreasing_by
  · simp
  · have := length_afterComment _ended
    simp
    omega

theorem length_skipBlanks (s : List Char) : (skipBlanks s).length ≤ s.length := by
  fun_induction skipBlanks s with
  | case1 => simp
  | case2 c rest _ ih => exact Nat.le_succ_of_le ih
  | case3 rest rest' ended _ ih =>
    have := length_afterComment ended
    simp only [List.length_cons]
    omega
  | case4 => simp
  | case5 => simp

/-- What a backslash and the character after it stand for: a pair without a meaning stands for
    itself. -/
def unescape : Char → List Char
  | '"' => ['"']
  | '\\' => ['\\']
  | 'n' => ['\n']
  | 't' => ['\t']
  | c => ['\\', c]

/-- The content of a quoted text whose opening quote was read, and what follows its closing quote;
    none if it never ends. -/
def literalBody : List Char → Option (List Char × List Char)
  | [] => none
  | '"' :: rest => some ([], rest)
  | '\\' :: [] => none
  | '\\' :: c :: rest => (literalBody rest).map fun (content, rest) => (unescape c ++ content, rest)
  | c :: rest => (literalBody rest).map fun (content, rest) => (c :: content, rest)

theorem length_literalBody {s content rest : List Char}
    (h : literalBody s = some (content, rest)) : rest.length ≤ s.length := by
  fun_induction literalBody s generalizing content with
  | case1 => simp at h
  | case2 r => simp_all
  | case3 => simp at h
  | case4 c r ih =>
    obtain ⟨⟨_, _⟩, hr, he⟩ := Option.map_eq_some_iff.1 h
    simp only [Prod.mk.injEq] at he
    obtain ⟨_, rfl⟩ := he
    have := ih hr
    simp
    omega
  | case5 c r _ _ _ ih =>
    obtain ⟨⟨_, _⟩, hr, he⟩ := Option.map_eq_some_iff.1 h
    simp only [Prod.mk.injEq] at he
    obtain ⟨_, rfl⟩ := he
    exact Nat.le_succ_of_le (ih hr)

/-- Skips whitespace and comments. -/
def blanks : Phrase Unit where
  run s := (.ok (), skipBlanks s)
  size_le := length_skipBlanks

/-- Takes the character `c`, or fails where it was due. -/
def symbol (c : Char) (due : Due) : Phrase Unit where
  run s := match s with
    | [] => (.error ⟨due, []⟩, [])
    | d :: rest => if d = c then (.ok (), rest) else (.error ⟨due, d :: rest⟩, d :: rest)
  size_le s := by
    cases s with
    | nil => simp
    | cons d rest => by_cases h : d = c <;> simp [h, Source.size]

/-- Takes the first character after blanks; `due` is missing if there is none. -/
def lexemeStart (due : Due) : Phrase Char where
  run s := match skipBlanks s with
    | [] => (.error ⟨due, []⟩, [])
    | c :: rest => (.ok c, rest)
  size_le s := by
    have h := length_skipBlanks s
    split
    · exact Nat.zero_le _
    · rename_i c rest hs
      rw [hs] at h
      exact Nat.le_of_succ_le h

theorem lexemeStart_advances (due : Due) : (lexemeStart due).Advances := by
  intro s c rest h
  have hl := length_skipBlanks s
  simp only [lexemeStart] at h
  split at h
  · simp at h
  · rename_i c' rest' hs
    rw [hs] at hl
    simp only [Prod.mk.injEq, Except.ok.injEq] at h
    obtain ⟨_, rfl⟩ := h
    exact hl

/-- Fails at the character `c`, which was the last one read. -/
def expectedAt {α : Type} (c : Char) (due : Due) : Phrase α where
  run s := (.error ⟨due, c :: s⟩, s)
  size_le _ := Nat.le_refl _

/-- The rest of a quoted text whose opening quote was read; `due` is missing if it never ends. -/
def literalRest (due : Due) : Phrase String where
  run s := match literalBody s with
    | some (content, rest) => (.ok (String.ofList content), rest)
    | none => (.error ⟨due, []⟩, [])
  size_le s := by
    split
    · exact length_literalBody ‹_›
    · exact Nat.zero_le _

/-- The rest of a name that starts with `c`. -/
def nameRest (c : Char) : Phrase String where
  run s := (.ok (String.ofList (c :: s.takeWhile isNamePart)), s.dropWhile isNamePart)
  size_le _ := (List.dropWhile_suffix _).length_le

/-- Runs a phrase if, after blanks, `c` is ahead; otherwise reads nothing, not even the blanks, and
    answers `absent`. -/
def afterSymbol {α : Type} (c : Char) (absent : α) (phrase : Phrase α) : Phrase α where
  run s := match skipBlanks s with
    | [] => (.ok absent, s)
    | d :: rest => if d = c then phrase.run rest else (.ok absent, s)
  size_le s := by
    have h := length_skipBlanks s
    split
    · exact Nat.le_refl _
    · rename_i d rest hs
      split
      · rw [hs] at h
        exact Nat.le_trans (phrase.size_le rest) (Nat.le_of_succ_le h)
      · exact Nat.le_refl _

/-! ## 3. Attributes -/

/-- One attribute whose first character is `c`: a name, an equals sign and a quoted value. -/
def attributeRest (c : Char) : Phrase Attribute :=
  if isNameStart c then do
    let name ← nameRest c
    blanks
    symbol '=' .equalsSign
    blanks
    symbol '"' .attributeValue
    let value ← literalRest .attributeValue
    return ⟨name, value⟩
  else expectedAt c .attributeName

/-- The attributes after the first one, up to the closing parenthesis, each after a comma. -/
def moreAttributes : Phrase (List Attribute) :=
  Consumer.items (lexemeStart .attributeEnd) (lexemeStart_advances _) fun c =>
    if c = ')' then return none
    else if c = ',' then return some (← attributeRest (← lexemeStart .attributeName))
    else expectedAt c .attributeEnd

/-- The list of attributes after its opening parenthesis. -/
def attributesRest : Phrase (List Attribute) := do
  let c ← lexemeStart .attributeName
  if c = ')' then return []
  else
    let first ← attributeRest c
    return first :: (← moreAttributes)

/-! ## 4. Elements -/

/-- The items of a body after its opening brace, up to the closing one. `child` reads an element
    whose first character was read. -/
def bodyRest (child : Char → Phrase (List Token)) : Phrase (List Token) := do
  let items ← Consumer.items (lexemeStart .bodyItem) (lexemeStart_advances _) fun c =>
    if c = '\x7d' then return none
    else if c = '"' then return some [.text (← literalRest .textEnd)]
    else if isNameStart c then return some (← child c)
    else expectedAt c .bodyItem
  return items.flatten

/-- An element whose name starts with `c`, with at most `levels` elements nested, itself
    included. -/
def elementRest : Nat → Char → Phrase (List Token)
  | 0, c => expectedAt c .shallowerElement
  | levels + 1, c => do
    let name ← nameRest c
    let attributes ← afterSymbol '(' [] attributesRest
    let body ← afterSymbol '\x7b' [] (bodyRest (elementRest levels))
    return .opening name attributes :: body ++ [.closing]

/-- A document: one element with blanks around it. -/
def document : Phrase (List Token) := do
  let c ← lexemeStart .tagName
  if isNameStart c then
    let tokens ← elementRest maxNesting c
    blanks
    return tokens
  else expectedAt c .tagName

end Grammar

/-- The tokens of a text document. The error of a text that is not a document shows the place where
    it stops being one. -/
def parse (text : String) : Except DocumentError (List Token) :=
  let fault (m : Grammar.Mismatch) : DocumentError :=
    .malformed ((Spot.ofRest text.toList m.rest).report m.due.explanation)
  match Grammar.document.run text.toList with
  | (.ok tokens, []) => .ok tokens
  | (.ok _, rest) => .error (fault ⟨.documentEnd, rest⟩)
  | (.error m, _) => .error (fault m)

end Verdict
