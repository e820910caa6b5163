import Verdict.Regex.Scan

/-!
# Repetitions in patterns

* `Repetition`: how often a piece of a pattern stands in a row;
* `readMark`: what follows one of the marks `*`, `+` and `?`;
* `readCount`: a counted repetition behind its opening brace.

A question mark behind a repetition asks for the shortest match; it is read and has no effect on
whether a text matches.
-/

namespace Verdict.Pattern

/-- How often a piece stands in a row: at least `least` times, and at most `most` times, if that is
    given. -/
structure Repetition where
  least : Nat
  most : Option Nat
  deriving DecidableEq

/-- Whether some number of times is allowed. -/
def Repetition.isOrdered (r : Repetition) : Bool :=
  match r.most with
  | none => true
  | some most => r.least ≤ most

/-- The repetition that a mark stands for. -/
def markOf? (c : Char) : Option Repetition :=
  match c with
  | '*' => some ⟨0, none⟩
  | '+' => some ⟨1, none⟩
  | '?' => some ⟨0, some 1⟩
  | _ => none

/-- What follows a mark: perhaps a question mark, directly behind it. -/
def readMark (repetition : Repetition) : Scan Repetition := do
  let _ ← Scan.takeIf '?'
  return repetition

/-- The value of decimal digits. -/
def decimalValue (digits : List Char) : Nat :=
  digits.foldl (fun n c => 10 * n + (c.toNat - '0'.toNat)) 0

/-- The largest count that can be written. -/
def maxCount : Nat := 0xFFFFFFFF

/-- Decimal digits, between which space stands in a verbose pattern; at most as many as `fuel`. -/
def readDigits (verbose : Bool) : Nat → Scan (List Char)
  | 0 => return []
  | fuel + 1 => do
    match ← Scan.ahead? with
    | some c =>
      if c.isDigit then
        let _ ← Scan.take
        Scan.space verbose
        return c :: (← readDigits verbose fuel)
      else return []
    | none => return []

/-- A count: digits with whitespace around them. -/
def readNumber (verbose : Bool) : Scan Nat := do
  let _ ← Scan.takeWhile Text.isWhitespace
  let digits ← readDigits verbose (← Consumer.remaining).length
  let _ ← Scan.takeWhile Text.isWhitespace
  if digits.isEmpty ∨ maxCount < decimalValue digits then Scan.reject
  else return decimalValue digits

/-- A counted repetition behind its opening brace: one count, a count and a comma, or two counts in
    order; then the closing brace, and perhaps a question mark. -/
def readCount (verbose : Bool) : Scan Repetition := do
  Scan.more verbose
  let least ← readNumber verbose
  let repetition : Repetition ←
    if ← Scan.takeIf ',' then
      Scan.more verbose
      if (← Scan.ahead?) = some '\x7d' then pure ⟨least, none⟩
      else pure ⟨least, some (← readNumber verbose)⟩
    else pure ⟨least, some least⟩
  if ← Scan.takeIf '\x7d' then
    Scan.space verbose
    let _ ← Scan.takeIf '?'
    if repetition.isOrdered then return repetition else Scan.reject
  else Scan.reject

end Verdict.Pattern
