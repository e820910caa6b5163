import Verdict.Unicode.Addition
import Verdict.Unicode.Decomposition
import Verdict.Unicode.GeneralCategory

/-!
# Texts without diacritics

* `isMark`: the characters that combine with the one before them;
* `stripDiacritics`: a text decomposed canonically and rid of its marks, so that letters with and
  without accents become the same.
-/

namespace Verdict.Text

open Unicode

/-- The characters of the general category Mark, later ones included. -/
def isMark (c : Char) : Bool :=
  (CharClass.unions [GeneralCategory.mark, Addition.mark, Addition.laterMark]).contains c.toNat

/-- The canonical decomposition of one character. -/
def decomposeChar (c : Char) : List Char := (decompose c.toNat).map Char.ofNat

/-- The characters of a text, decomposed, without the marks. -/
def stripChars (s : List Char) : List Char :=
  (s.flatMap decomposeChar).filter fun c => !isMark c

/-- A text decomposed canonically, without the marks. -/
def stripDiacritics (s : String) : String := String.ofList (stripChars s.toList)

end Verdict.Text
