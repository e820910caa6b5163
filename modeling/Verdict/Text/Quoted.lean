import Verdict.Unicode.Addition
import Verdict.Unicode.Property

/-!
# Quoting a text so that every character shows

* `isShown`: the characters that stand for themselves between quotes;
* `quoted`: a text between quotes, with an escape for every other character.

The escape of a character without a short form is `\u`, a brace, its number in hexadecimal, and a
brace.
-/

namespace Verdict.Text

open Unicode in
/-- The characters that are visible on their own: no controls, formats, private-use or unassigned
    characters, no separator but the space, none that extends the character before it, and none that
    is left out of what is displayed, such as a filler. -/
def isShown (c : Char) : Bool :=
  c == ' ' ||
    !(CharClass.unions [.diff GeneralCategory.other Addition.assigned, GeneralCategory.separator,
        Property.graphemeExtend, Addition.graphemeExtend,
        Property.defaultIgnorable]).contains c.toNat

/-- How one character is written between quotes. -/
def quotedChar (c : Char) : List Char :=
  match c with
  | '"' => ['\\', '"']
  | '\\' => ['\\', '\\']
  | '\n' => ['\\', 'n']
  | '\r' => ['\\', 'r']
  | '\t' => ['\\', 't']
  | '\x00' => ['\\', '0']
  | c =>
    if isShown c then [c]
    else ['\\', 'u', '\x7b'] ++ Nat.toDigits 16 c.toNat ++ ['\x7d']

/-- A text between quotes. -/
def quoted (s : String) : String :=
  String.ofList ('"' :: s.toList.flatMap quotedChar ++ ['"'])

end Verdict.Text
