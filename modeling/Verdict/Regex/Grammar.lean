import Verdict.Regex.Bracket
import Verdict.Regex.Group
import Verdict.Regex.Repetition

/-!
# Reading a regular expression

A pattern is read in one pass; the groups that are open are kept on a stack.

* `Piece`: a part of a pattern, with the levels of nesting of its notation;
* `Level`: a group that is being read;
* `Progress`, `step`: all that was read so far, and what one more symbol does to it;
* `Regex.compile?`: the regular expression that a pattern stands for, if it is one. Its notation
  must not nest deeper than `maxLevels`.
-/

namespace Verdict.Pattern

open Unicode (CharClass)

/-- A part of a pattern. -/
structure Piece where
  pattern : Regex
  /-- The levels of nesting of its notation. -/
  levels : Nat := 0
  /-- Whether a repetition can follow. -/
  repeatable : Bool := true

/-- The number of levels that a pattern can have. -/
def maxLevels : Nat := 250

namespace Piece

/-- Several pieces as one; more than one piece is a level of its own. -/
def combine (join : List Regex → Regex) : List Piece → Piece
  | [piece] => piece
  | pieces =>
    { pattern := join (pieces.map (·.pattern))
      levels := if pieces.isEmpty then 0 else 1 + (pieces.map (·.levels)).foldr max 0 }

/-- A piece in a row with itself. -/
def repeated (piece : Piece) (r : Repetition) : Piece :=
  { pattern := .iterate piece.pattern r.least r.most, levels := 1 + piece.levels }

/-- A piece as a group. -/
def grouped (piece : Piece) : Piece := { pattern := piece.pattern, levels := 1 + piece.levels }

/-- One character of a class. -/
def ofClass (c : CharClass) : Piece := { pattern := .one c }

/-- A demand on a place. -/
def ofAssertion (a : Assertion) : Piece := { pattern := .assert a }

end Piece

/-- A group that is being read: the modes in force, the pieces of the alternative that is being
    read, and the alternatives before it, each with the last one first. -/
structure Level where
  flags : Flags
  pieces : List Piece := []
  branches : List Piece := []

namespace Level

/-- Adds a piece. -/
def add (level : Level) (piece : Piece) : Level := { level with pieces := piece :: level.pieces }

/-- Ends an alternative. -/
def endBranch (level : Level) : Level :=
  { level with
    pieces := []
    branches := Piece.combine .sequence level.pieces.reverse :: level.branches }

/-- All that was read, as one piece. -/
def content (level : Level) : Piece := Piece.combine .alternation level.endBranch.branches.reverse

/-- Repeats the last piece; none if there is no piece that can be repeated. -/
def repeatLast? (level : Level) (r : Repetition) : Option Level :=
  match level.pieces with
  | [] => none
  | piece :: pieces =>
    if piece.repeatable then some { level with pieces := piece.repeated r :: pieces } else none

/-- Goes on with other modes; a repetition cannot follow directly. -/
def setFlags (level : Level) (flags : Flags) : Level :=
  { level.add { pattern := .empty, repeatable := false } with flags }

end Level

/-- What was read so far: the group that is being read, the groups around it, innermost first, and
    the names of all groups. -/
structure Progress where
  inner : Level
  outer : List Level := []
  names : List (List Char) := []

namespace Progress

/-- Goes on with the innermost group changed. -/
def withInner (p : Progress) (inner : Level) : Progress := { p with inner }

/-- Starts what an opening parenthesis starts; none if the name of the group was used before. -/
def start? (p : Progress) : Opening → Option Progress
  | .modes flags => some (p.withInner (p.inner.setFlags flags))
  | .group flags name =>
    if name.any p.names.contains then none
    else some { inner := { flags }, outer := p.inner :: p.outer, names := name.toList ++ p.names }

/-- Ends the innermost group; none if no group is open. The modes are again those of the group
    around it. -/
def close? (p : Progress) : Option Progress :=
  match p.outer with
  | [] => none
  | level :: outer => some { p with inner := level.add p.inner.content.grouped, outer }

/-- The whole pattern, at its end; none if a group is open. -/
def finish? (p : Progress) : Option Piece :=
  match p.outer with
  | [] => some p.inner.content
  | _ => none

end Progress

/-! ## 1. Single symbols -/

/-- The class of a dot. Without Unicode, a dot is refused, since it could match a part of a
    character. -/
def dotClass? (flags : Flags) : Option CharClass :=
  if !flags.unicode then none
  else if flags.dotAll then some .all
  else if flags.crlf then some (.compl (.union (.single '\n'.toNat) (.single '\r'.toNat)))
  else some (.compl (.single '\n'.toNat))

/-- The demand of a circumflex. -/
def startAssertion (flags : Flags) : Assertion :=
  if flags.multiLine then .lineStart flags.crlf else .textStart

/-- The demand of a dollar sign. -/
def endAssertion (flags : Flags) : Assertion :=
  if flags.multiLine then .lineEnd flags.crlf else .textEnd

/-- The class of a character by itself. Without Unicode, only ASCII has case, and a character that
    was written as a single byte must be of ASCII. -/
def literalClass? (flags : Flags) (c : Char) (byte : Bool) : Option CharClass :=
  if !flags.unicode ∧ byte ∧ 0x80 ≤ c.toNat then none
  else finishClass flags false (.single c.toNat)

/-- The piece that an escape stands for. -/
def atomPiece? (flags : Flags) : Atom → Option Piece
  | .literal c byte => (literalClass? flags c byte).map .ofClass
  | .set c => some (.ofClass c)
  | .assertion a => some (.ofAssertion a)

/-- The piece that starts with the symbol `c`. -/
def readPiece (flags : Flags) (c : Char) : Scan Piece :=
  match c with
  | '[' => do
    let part ← readBracket flags
    return { pattern := .one part.set, levels := part.depth }
  | '\\' => do Scan.require (atomPiece? flags (← readEscape flags))
  | '.' => Scan.require ((dotClass? flags).map .ofClass)
  | '^' => return .ofAssertion (startAssertion flags)
  | '$' => return .ofAssertion (endAssertion flags)
  | _ => Scan.require (atomPiece? flags (.literal c false))

/-! ## 2. The machine -/

/-- What the symbol `c` does to what was read so far. -/
def step (p : Progress) (c : Char) : Scan Progress := do
  let flags := p.inner.flags
  if flags.verbose ∧ Text.isWhitespace c then return p
  else if flags.verbose ∧ c = '#' then
    let _ ← Scan.takeWhile (· != '\n')
    return p
  else
    match c with
    | '(' => Scan.require (p.start? (← readOpening flags))
    | ')' => Scan.require p.close?
    | '|' => return p.withInner p.inner.endBranch
    | '\x7b' =>
      Scan.require (p.inner.repeatLast? (← readCount flags.verbose) |>.map p.withInner)
    | _ =>
      match markOf? c with
      | some r => Scan.require (p.inner.repeatLast? (← readMark r) |>.map p.withInner)
      | none => return p.withInner (p.inner.add (← readPiece flags c))

/-- Reads symbols until the pattern ends. -/
def readFrom (p : Progress) (s : List Char) : Option Piece :=
  match s with
  | [] => p.finish?
  | c :: rest =>
    match _stepped : (step p c).run rest with
    | (.ok p', rest') => readFrom p' rest'
    | (.error (), _) => none
termination_by s.length
decreasing_by
  have h := (step p c).size_le rest
  rw [_stepped] at h
  exact Nat.lt_succ_of_le h

end Verdict.Pattern

namespace Verdict

open Pattern in
/-- The regular expression that a pattern stands for, if it is one. -/
def Regex.compile? (flags : Flags) (text : List Char) : Option Regex :=
  match readFrom { inner := { flags } } text with
  | some piece => if piece.levels ≤ maxLevels then some piece.pattern else none
  | none => none

end Verdict
