/-!
# Outcomes

Most of this library either answers a value or answers an error. Where memory is set aside for what
is still to be read, there is a third way to end: the program stops, and nothing is answered.

* `Outcome`: a value, an error or a crash;
* the monad structure: a sequence goes on behind a value only;
* `Outcome.ofExcept`, `Outcome.mapError`: what is answered without a crash, and errors in a wider
  type;
* `Outcome.bind_eq_ok_iff`, `Outcome.bind_eq_crash_iff`: how a sequence of two comes to its end.
-/

namespace Verdict

/-- How something ends. -/
inductive Outcome (ε α : Type) where
  | ok (a : α)
  | error (e : ε)
  /-- The program stops; nothing is answered. -/
  | crash
  deriving DecidableEq

namespace Outcome

variable {ε ε' α β : Type}

/-- Goes on behind a value; an error or a crash ends the sequence there. -/
protected def bind (x : Outcome ε α) (f : α → Outcome ε β) : Outcome ε β :=
  match x with
  | .ok a => f a
  | .error e => .error e
  | .crash => .crash

instance : Monad (Outcome ε) where
  pure := .ok
  bind := Outcome.bind

/-- The outcome of what does not crash. -/
def ofExcept : Except ε α → Outcome ε α
  | .error e => .error e
  | .ok a => .ok a

/-- Carries the error of an outcome into another type. -/
def mapError (f : ε → ε') : Outcome ε α → Outcome ε' α
  | .ok a => .ok a
  | .error e => .error (f e)
  | .crash => .crash

/-! ### Sequences -/

variable {x : Outcome ε α} {f : α → Outcome ε β}

theorem bind_eq_ok_iff {b : β} : x.bind f = .ok b ↔ ∃ a, x = .ok a ∧ f a = .ok b := by
  cases x <;> simp [Outcome.bind]

theorem bind_eq_crash_iff : x.bind f = .crash ↔ x = .crash ∨ ∃ a, x = .ok a ∧ f a = .crash := by
  cases x <;> simp [Outcome.bind]

end Outcome

end Verdict
