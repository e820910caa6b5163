import Verdict.Proofs.Document.Printing

/-!
# Where tokens may stand

A text and a close need an open element around them.

* `within`: the number of open elements after tokens that all have their place;
* `within_of_openAfter`, `openAfter_of_within`: inside an element, tokens have their place if
  they close no more than they open;
* **`Layout.length_bodies_putAll?`**: a layout takes the tokens that have their place, no others;
* `exists_measure_of_openAfter`: what closes as much as it opens is the body of an element.
-/

namespace Verdict

variable {level final : Nat} {tokens : List Token}

/-! ## 1. Places -/

/-- The number of open elements after `tokens`, when `level` are open before them; none if a text or
    a close stands outside every element. -/
def within (level : Nat) : List Token → Option Nat
  | [] => some level
  | .opening _ _ :: rest => within (level + 1) rest
  | .text _ :: rest => if level = 0 then none else within level rest
  | .closing :: rest =>
    match level with
    | 0 => none
    | outer + 1 => within outer rest

theorem within_append (level : Nat) (a b : List Token) :
    within level (a ++ b) = (within level a).bind fun l => within l b := by
  induction a generalizing level with
  | nil => rfl
  | cons token a ih =>
    cases token with
    | opening name attributes => exact ih (level + 1)
    | text content =>
      rw [List.cons_append, within, within]
      split
      · rfl
      · exact ih level
    | closing =>
      cases level with
      | zero => rfl
      | succ outer => exact ih outer

/-- Tokens that close no more than they open have their place inside an element, and leave open what
    is open around them. -/
theorem within_of_openAfter (h : openAfter level tokens = some final) (around : Nat) :
    within (level + around + 1) tokens = some (final + around + 1) := by
  induction tokens generalizing level with
  | nil =>
    obtain rfl := Option.some.inj h
    rfl
  | cons token rest ih =>
    cases token with
    | opening name attributes =>
      rw [within, Nat.add_right_comm level]
      exact ih h
    | text content =>
      rw [within, if_neg (Nat.succ_ne_zero _)]
      exact ih h
    | closing =>
      cases level with
      | zero => cases h
      | succ outer =>
        rw [Nat.add_right_comm outer]
        exact ih h

/-- Tokens that have their place close no more than they open. -/
theorem openAfter_of_within (h : within level tokens = some final) :
    openAfter level tokens = some final := by
  induction tokens generalizing level with
  | nil => exact h
  | cons token rest ih =>
    cases token with
    | opening name attributes => exact ih h
    | text content =>
      rw [within] at h
      split at h
      · cases h
      · exact ih h
    | closing =>
      cases level with
      | zero => cases h
      | succ outer => exact ih h

/-! ## 2. Layouts -/

namespace Layout

/-- A layout takes a token that has its place, and refuses any other. -/
theorem length_bodies_put? (l : Layout) (token : Token) :
    (l.put? token).map (·.bodies.length) = within l.bodies.length [token] := by
  obtain ⟨text, bodies⟩ := l
  cases token with
  | opening name attributes => rcases bodies with _ | ⟨_ | _, outer⟩ <;> rfl
  | text content => rcases bodies with _ | ⟨_ | _, outer⟩ <;> rfl
  | closing => rcases bodies with _ | ⟨_ | _, outer⟩ <;> rfl

/-- **A layout takes the tokens that have their place, and no others.** -/
theorem length_bodies_putAll? (l : Layout) (tokens : List Token) :
    (l.putAll? tokens).map (·.bodies.length) = within l.bodies.length tokens := by
  induction tokens generalizing l with
  | nil => rfl
  | cons token rest ih =>
    have hput := length_bodies_put? l token
    rw [putAll?, ← List.singleton_append, within_append, ← hput]
    cases l.put? token with
    | none => rfl
    | some l' => exact ih l'

theorem exists_putAll?_of_within {l : Layout} (h : within l.bodies.length tokens = some final) :
    ∃ l', l.putAll? tokens = some l' ∧ l'.bodies.length = final := by
  rw [← length_bodies_putAll?] at h
  exact Option.map_eq_some_iff.mp h

end Layout

/-! ## 3. Measures -/

/-- Inside an element, tokens that close no more than they open are scanned without a fault. -/
theorem exists_scanNesting_of_openAfter (h : openAfter level tokens = some final)
    (position deepest : Nat) : ∃ position' deepest', ∀ rest,
      scanNesting position (level + 1) deepest (tokens ++ rest) =
        scanNesting position' (final + 1) deepest' rest := by
  induction tokens generalizing level position deepest with
  | nil =>
    obtain rfl := Option.some.inj h
    exact ⟨position, deepest, fun _ => rfl⟩
  | cons token rest ih =>
    cases token with
    | opening name attributes => exact ih h (position + 1) (max deepest (level + 2))
    | text content => exact ih h (position + 1) deepest
    | closing =>
      cases level with
      | zero => cases h
      | succ outer => exact ih h (position + 1) deepest

/-- What closes as much as it opens is the body of an element: `measure` accepts it between an
    opening and a close. -/
theorem exists_measure_of_openAfter {body : List Token} (h : openAfter 0 body = some 0)
    (name : String) (attributes : List Attribute) :
    ∃ depth, measure (.opening name attributes :: body ++ [.closing]) = .ok depth := by
  obtain ⟨position, deepest, hscan⟩ := exists_scanNesting_of_openAfter h 1 1
  refine ⟨deepest, measure_eq_ok_iff.mpr ⟨List.cons_ne_nil _ _, ?_⟩⟩
  show scanNesting 1 1 1 (body ++ [.closing]) = _
  rw [hscan, scanNesting_closing]
  rfl

end Verdict
