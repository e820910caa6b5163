import Verdict.Consumer
import Verdict.Text.Blank

/-!
# Reading the characters of a pattern

A pattern that is not a regular expression is refused without a reason, so the steps that read one
fail with the one value of `Unit`.

* `Flags`: the modes of reading and matching that a pattern can switch;
* `Scan`: a step that reads the characters of a pattern;
* `skipSpace`: whitespace and comments, which stand between the symbols of a verbose pattern;
* `take`, `takeSymbol`, `more`: the next character, the next symbol, and that there is one.
-/

namespace Verdict.Pattern

/-- The modes of a pattern. -/
structure Flags where
  /-- Letters match in either case. -/
  ignoreCase : Bool
  /-- The line anchors hold at every line, not only at the ends of the text. -/
  multiLine : Bool := false
  /-- A dot matches line ends, too. -/
  dotAll : Bool
  /-- A carriage return ends lines, too. -/
  crlf : Bool := false
  /-- Classes and case are those of all of Unicode, not only of ASCII. -/
  unicode : Bool := true
  /-- Whitespace and comments between symbols do not count. -/
  verbose : Bool := false
  deriving DecidableEq

/-- A step that reads the characters of a pattern. -/
abbrev Scan (α : Type) := Consumer (List Char) Unit α

/-- What follows the line that is ahead. -/
def afterLine (s : List Char) : List Char := (s.dropWhile (· != '\n')).drop 1

theorem length_afterLine (s : List Char) : (afterLine s).length ≤ s.length := by
  have := (List.dropWhile_suffix (· != '\n') (l := s)).length_le
  simp only [afterLine, List.length_drop]
  omega

/-- What follows the whitespace and the comments ahead. -/
def skipVerbose (s : List Char) : List Char :=
  match s with
  | [] => []
  | c :: rest =>
    if Text.isWhitespace c then skipVerbose rest
    else if c = '#' then skipVerbose (afterLine rest)
    else c :: rest
termination_by s.length
decreasing_by
  · simp
  · have := length_afterLine rest
    simp only [List.length_cons]
    omega

theorem length_skipVerbose (s : List Char) : (skipVerbose s).length ≤ s.length := by
  fun_induction skipVerbose s with
  | case1 => simp
  | case2 c rest _ ih => exact Nat.le_succ_of_le ih
  | case3 rest _ ih =>
    have := length_afterLine rest
    simp only [List.length_cons]
    omega
  | case4 => simp

/-- What follows the characters that do not count ahead of a symbol. -/
def skipSpace (verbose : Bool) (s : List Char) : List Char := if verbose then skipVerbose s else s

theorem length_skipSpace (verbose : Bool) (s : List Char) :
    (skipSpace verbose s).length ≤ s.length := by
  cases verbose
  · exact Nat.le_refl _
  · exact length_skipVerbose s

@[simp] theorem skipSpace_false (s : List Char) : skipSpace false s = s := rfl

namespace Scan

/-- Refuses the pattern. -/
def reject {α : Type} : Scan α := Consumer.fail ()

/-- The answer of an optional part; none refuses the pattern. -/
def require {α : Type} : Option α → Scan α
  | some a => pure a
  | none => reject

/-- The character ahead, left where it is. -/
def ahead? : Scan (Option Char) := do return (← Consumer.remaining).head?

/-- Takes the next character. -/
def take : Scan Char where
  run s := match s with
    | [] => (.error (), [])
    | c :: rest => (.ok c, rest)
  size_le s := by cases s <;> simp [Source.size]

/-- Skips what does not count ahead of a symbol. -/
def space (verbose : Bool) : Scan Unit where
  run s := (.ok (), skipSpace verbose s)
  size_le := length_skipSpace verbose

/-- Takes the next character that counts. -/
def takeSymbol (verbose : Bool) : Scan Char where
  run s := match skipSpace verbose s with
    | [] => (.error (), [])
    | c :: rest => (.ok c, rest)
  size_le s := by
    have h := length_skipSpace verbose s
    split
    · exact Nat.zero_le _
    · rename_i c rest hs
      rw [hs] at h
      exact Nat.le_of_succ_le h

theorem takeSymbol_advances (verbose : Bool) : (takeSymbol verbose).Advances := by
  intro s c rest h
  have hl := length_skipSpace verbose s
  simp only [takeSymbol] at h
  split at h
  · simp at h
  · rename_i d tail hs
    rw [hs] at hl
    simp only [Prod.mk.injEq, Except.ok.injEq] at h
    obtain ⟨_, rfl⟩ := h
    exact hl

/-- Skips what does not count; refuses the pattern if nothing follows. -/
def more (verbose : Bool) : Scan Unit := do
  space verbose
  if (← ahead?).isNone then reject

/-- Takes the character `c` if it is ahead. -/
def takeIf (c : Char) : Scan Bool where
  run s := match s with
    | [] => (.ok false, [])
    | d :: rest => if d = c then (.ok true, rest) else (.ok false, d :: rest)
  size_le s := by
    cases s with
    | nil => simp
    | cons d rest => by_cases h : d = c <;> simp [h, Source.size]

/-- Takes a run of characters if it is ahead. -/
def takeAll (expected : List Char) : Scan Bool where
  run s := if expected.isPrefixOf s then (.ok true, s.drop expected.length) else (.ok false, s)
  size_le s := by split <;> simp [Source.size]

/-- Takes characters as long as they pass the test. -/
def takeWhile (p : Char → Bool) : Scan (List Char) where
  run s := (.ok (s.takeWhile p), s.dropWhile p)
  size_le _ := (List.dropWhile_suffix _).length_le

end Scan

end Verdict.Pattern
