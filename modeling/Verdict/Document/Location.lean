/-!
# Showing where a text stops being a document

* `Spot`: a place in a text, as what comes before and after it;
* `Spot.report`: the text of a syntax error at that place -- a text of one line is shown with a
  caret below the place; of a longer text the line is shown, with its number and the column.

Columns count characters, except that a place before a character of several bytes is counted in
bytes; the caret below a text of one line is placed by bytes.
-/

namespace Verdict

/-- The number of bytes of a run of characters. -/
def byteLength (s : List Char) : Nat := s.foldr (fun c n => c.utf8Size + n) 0

/-- A place in a text. -/
structure Spot where
  before : List Char
  after : List Char

namespace Spot

/-- Splits a text at a place, given by the characters after it. -/
def ofRest (text rest : List Char) : Spot where
  before := text.take (text.length - rest.length)
  after := rest

/-- The characters after the last line feed. -/
def lastLine (s : List Char) : List Char := (s.reverse.takeWhile (· != '\n')).reverse

/-- The characters before the first line feed. -/
def firstLine (s : List Char) : List Char := s.takeWhile (· != '\n')

/-- The number of the line of a spot, from 1. A spot behind a final line feed lies on the line that
    this one ends. -/
def lineNumber (spot : Spot) : Nat :=
  1 + (if spot.after.isEmpty then spot.before.dropLast else spot.before).count '\n'

/-- The content of the line of a spot, without its line feed. -/
def line (spot : Spot) : List Char :=
  if spot.after.isEmpty then
    lastLine spot.before.dropLast ++ firstLine spot.before.getLast?.toList
  else lastLine spot.before ++ firstLine spot.after

/-- The column of a spot, from 1. -/
def column (spot : Spot) : Nat :=
  match spot.after with
  | [] => (lastLine spot.before.dropLast).length + 2
  | c :: _ =>
    if c.utf8Size = 1 then (lastLine spot.before).length + 1
    else byteLength (lastLine spot.before) + 1

/-- A run of blanks. -/
def blanks (n : Nat) : String := String.ofList (List.replicate n ' ')

/-- The text of a syntax error at a spot; `explanation` says what was due there. -/
def report (spot : Spot) (explanation : String) : String :=
  let text := spot.before ++ spot.after
  if text.contains '\n' then
    let number := toString spot.lineNumber
    let gutter := blanks number.length
    s!"parse error at line {number}, column {spot.column}\n{gutter} |\n" ++
      s!"{number} | {String.ofList spot.line}\n" ++
      s!"{gutter} | {blanks (spot.column - 1)}^\n{explanation}"
  else s!"{String.ofList text}\n{blanks (byteLength spot.before)}^\n{explanation}"

end Spot

end Verdict
