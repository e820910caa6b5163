import Verdict.Document.Token

/-!
# Nesting of tokens

* `openAfter`: the number of open elements after a run of tokens, if no close is unmatched;
* `measure`: how deep the tokens of a document nest, provided that they are exactly one element --
  otherwise the first fault, with its position (`NestingFault`).
-/

namespace Verdict

/-- The number of open elements after `tokens`, when `level` are open before them; none if a close
    has no element to end. -/
def openAfter (level : Nat) : List Token → Option Nat
  | [] => some level
  | .opening _ _ :: rest => openAfter (level + 1) rest
  | .text _ :: rest => openAfter level rest
  | .closing :: rest =>
    match level with
    | 0 => none
    | outer + 1 => openAfter outer rest

theorem openAfter_append (level : Nat) (a b : List Token) :
    openAfter level (a ++ b) = (openAfter level a).bind fun l => openAfter l b := by
  induction a generalizing level with
  | nil => rfl
  | cons t ts ih =>
    cases t with
    | opening name attributes => exact ih (level + 1)
    | text content => exact ih level
    | closing =>
      cases level with
      | zero => rfl
      | succ outer => exact ih outer

/-- Why tokens are not exactly one element. -/
inductive NestingFault where
  | trailing (position : Nat)
  | textOutside
  | unmatchedClose (position : Nat)
  | noRoot
  | leftOpen (count : Nat)
  deriving DecidableEq

/-- The text of a nesting fault. -/
def NestingFault.message : NestingFault → String
  | .trailing position => s!"trailing token at position {position} after the root element"
  | .textOutside => "text outside the root element"
  | .unmatchedClose position => s!"unmatched close at position {position}"
  | .noRoot => "no root element"
  | .leftOpen count => s!"{count} element(s) left open"

/-- Scans the tokens from `position` on, with `level` elements open and `deepest` the most that were
    open so far; answers the levels at the end. -/
def scanNesting (position level deepest : Nat) : List Token → Except NestingFault (Nat × Nat)
  | [] => .ok (level, deepest)
  | token :: rest =>
    if level = 0 ∧ 0 < position then .error (.trailing position)
    else
      match token with
      | .opening _ _ => scanNesting (position + 1) (level + 1) (max deepest (level + 1)) rest
      | .text _ =>
        if level = 0 then .error .textOutside else scanNesting (position + 1) level deepest rest
      | .closing =>
        match level with
        | 0 => .error (.unmatchedClose position)
        | outer + 1 => scanNesting (position + 1) outer deepest rest

/-- The depth of a document that is exactly one element, or its first fault. -/
def measure (tokens : List Token) : Except NestingFault Nat :=
  match scanNesting 0 0 0 tokens with
  | .error fault => .error fault
  | .ok (level, deepest) =>
    if tokens.isEmpty then .error .noRoot
    else if level = 0 then .ok deepest
    else .error (.leftOpen level)

end Verdict
