import Verdict.Regex.Scan
import Verdict.Unicode.GeneralCategory
import Verdict.Unicode.Property

/-!
# Groups in patterns

* `Opening`: what an opening parenthesis starts -- a group, or new modes for the group around it;
* `setModes?`: the modes after the letters of a mode setting;
* `readOpening`: what follows an opening parenthesis.
-/

namespace Verdict.Pattern

/-- What an opening parenthesis starts. -/
inductive Opening where
  /-- A group in which the modes are `flags`, with its name if it has one. -/
  | group (flags : Flags) (name : Option (List Char))
  /-- New modes for the rest of the group around it. -/
  | modes (flags : Flags)

/-! ## 1. Modes -/

/-- Switches the mode that a letter stands for. The letter that swaps long and short matches
    switches nothing that matters here. -/
def Flags.switch? (on : Bool) (letter : Char) (flags : Flags) : Option Flags :=
  match letter with
  | 'i' => some { flags with ignoreCase := on }
  | 'm' => some { flags with multiLine := on }
  | 's' => some { flags with dotAll := on }
  | 'R' => some { flags with crlf := on }
  | 'u' => some { flags with unicode := on }
  | 'x' => some { flags with verbose := on }
  | 'U' => some flags
  | _ => none

/-- Switches the modes of several letters. -/
def Flags.switchAll? (on : Bool) (letters : List Char) (flags : Flags) : Option Flags :=
  letters.foldlM (fun flags letter => flags.switch? on letter) flags

/-- Whether a hyphen is followed by something if it is there, and no character comes twice. -/
def isModeText (text : List Char) : Bool := text.getLast? != some '-' && decide text.Nodup

/-- The modes after a setting: the letters before a hyphen switch modes on, those behind it switch
    them off. -/
def setModes? (flags : Flags) (text : List Char) : Option Flags :=
  if isModeText text then do
    let flags ← flags.switchAll? true (text.takeWhile (· != '-'))
    flags.switchAll? false ((text.dropWhile (· != '-')).drop 1)
  else none

/-- A mode setting behind the question mark, up to a parenthesis or, for a group of its own, a
    colon. -/
def readModes (flags : Flags) : Scan Opening := do
  let text ← Scan.takeWhile fun c => c != ':' && c != ')'
  let last ← Scan.take
  match setModes? flags text with
  | none => Scan.reject
  | some flags =>
    if last = ':' then return .group flags none
    else if text.isEmpty then Scan.reject
    else return .modes flags

/-! ## 2. Names -/

/-- Whether a name can start with the character. -/
def startsName (c : Char) : Bool := c == '_' || Unicode.Property.alphabetic.contains c.toNat

/-- Whether the character can stand in a name behind its start. -/
def continuesName (c : Char) : Bool :=
  startsName c || c == '.' || c == '[' || c == ']' ||
    Unicode.GeneralCategory.number.contains c.toNat

/-- Whether a group can have this name. -/
def isGroupName : List Char → Bool
  | [] => false
  | c :: rest => startsName c && rest.all continuesName

/-- A name and the angle bracket behind it. -/
def readName : Scan (List Char) := do
  let name ← Scan.takeWhile (· != '>')
  let _ ← Scan.take
  if isGroupName name then return name else Scan.reject

/-! ## 3. The start of a group -/

/-- The starts of groups that look around; they are refused. -/
def lookarounds : List String := ["?=", "?!", "?<=", "?<!"]

/-- What follows an opening parenthesis, up to the content of the group. -/
def readOpening (flags : Flags) : Scan Opening := do
  Scan.space flags.verbose
  let s ← Consumer.remaining
  if lookarounds.any fun l => l.toList.isPrefixOf s then Scan.reject
  else if ← Scan.takeAll "?P<".toList then return .group flags (some (← readName))
  else if ← Scan.takeAll "?<".toList then return .group flags (some (← readName))
  else if ← Scan.takeIf '?' then readModes flags
  else return .group flags none

end Verdict.Pattern
