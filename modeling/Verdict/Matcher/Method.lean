import Verdict.Matcher.Error
import Verdict.Regex.Escape
import Verdict.Text.Blank

/-!
# How a pattern is understood

* `MatchMethod`: the four ways to understand a pattern;
* `MatchMethod.name`, `ofName`: their names;
* `MatchMethod.expression`: the regular expression that a pattern amounts to, as text.
-/

namespace Verdict

/-- A way to understand a pattern. -/
inductive MatchMethod where
  /-- Literally. -/
  | basic
  /-- As literal alternatives with commas between them, and whitespace around each. -/
  | csv
  /-- Literally, except that `*` stands for any text and `?` for any character. -/
  | wildcard
  /-- As a regular expression. -/
  | regex
  deriving DecidableEq

namespace MatchMethod

/-- The name of a method. -/
def name : MatchMethod → String
  | basic => "basic"
  | csv => "csv"
  | wildcard => "wildcard"
  | regex => "regex"

/-- The method with this name, in which ASCII letters may be of either case. -/
def ofName (name : String) : Except MatcherError MatchMethod :=
  let lower := String.ofList (name.toList.map Char.toLower)
  if lower = basic.name then .ok basic
  else if lower = csv.name then .ok csv
  else if lower = wildcard.name then .ok wildcard
  else if lower = regex.name then .ok regex
  else .error (.unknownMethod name)

theorem ofName_name (m : MatchMethod) : ofName m.name = .ok m := by
  cases m <;> rfl

/-- The parts of a text between its commas. -/
def splitCommas : List Char → List (List Char)
  | [] => [[]]
  | c :: rest =>
    if c = ',' then [] :: splitCommas rest
    else
      match splitCommas rest with
      | [] => [[c]]
      | part :: parts => (c :: part) :: parts

/-- The expression of one character of a wildcard pattern. -/
def wildcardChar (c : Char) : List Char :=
  if c = '*' then ['.', '*']
  else if c = '?' then ['.']
  else Pattern.escape [c]

/-- The regular expression that a pattern amounts to, as text. -/
def expression (m : MatchMethod) (pattern : List Char) : List Char :=
  match m with
  | basic => Pattern.escape pattern
  | csv =>
    List.intercalate ['|'] ((splitCommas pattern).map fun part =>
      Pattern.escape (Text.trimChars part))
  | wildcard => pattern.flatMap wildcardChar
  | regex => pattern

end MatchMethod

end Verdict
