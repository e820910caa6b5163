import Mathlib.Data.List.Forall2
import Verdict.Gate
import Verdict.Proofs.Evaluation.ShortCircuit

/-!
# Monotone evaluation

Nothing in a condition negates a leaf, so an outcome can only turn to true when leaves do. Two
evaluations need not test the same leaves; the lemmas therefore go through the outcome of testing
all of them (`Condition.holds`), not through the calls.

* `Junction.combine_mono`: the outcome of a composite is monotone in those of its children;
* **`holds_mono`**: the outcome of a tree is monotone in its leaves;
* **`evaluate_monotone`**: so is what an evaluation and a gate make of it.
-/

namespace Verdict

variable {P ε : Type}

/-- **The outcome of a composite is monotone in the outcomes of its children.** -/
theorem Junction.combine_mono {junction : Junction} {outcomes outcomes' : List Bool}
    (h : List.Forall₂ (fun b b' => b = true → b' = true) outcomes outcomes')
    (hfirst : junction.combine outcomes = true) : junction.combine outcomes' = true := by
  induction h with
  | nil => exact hfirst
  | @cons b b' rest rest' hb _ ih =>
    cases junction with
    | all =>
      obtain ⟨hthis, hothers⟩ := Bool.and_eq_true_iff.mp hfirst
      exact Bool.and_eq_true_iff.mpr ⟨hb hthis, ih hothers⟩
    | any =>
      rcases Bool.or_eq_true_iff.mp hfirst with hthis | hothers
      · exact Bool.or_eq_true_iff.mpr (.inl (hb hthis))
      · exact Bool.or_eq_true_iff.mpr (.inr (ih hothers))

namespace Condition

mutual

/-- **The outcome of testing all leaves is monotone in the leaves.** -/
theorem holds_mono {answer answer' : P → Bool} {c : Condition P}
    (h : ∀ p ∈ c.leafList, answer p = true → answer' p = true) (hfirst : c.holds answer = true) :
    c.holds answer' = true := by
  match c with
  | leaf p => exact h p List.mem_cons_self hfirst
  | composite junction children => exact Junction.combine_mono (holdsAll_mono h) hfirst

theorem holdsAll_mono {answer answer' : P → Bool} {cs : List (Condition P)}
    (h : ∀ p ∈ leafLists cs, answer p = true → answer' p = true) :
    List.Forall₂ (fun b b' => b = true → b' = true) (holdsAll answer cs) (holdsAll answer' cs) := by
  match cs with
  | [] => exact .nil
  | c :: rest =>
    exact .cons (holds_mono fun p hp => h p (List.mem_append_left _ hp))
      (holdsAll_mono fun p hp => h p (List.mem_append_right _ hp))

end

end Condition

/-- Whether a gate passes when every leaf answers. -/
theorem Gate.passes_of_answers (answer : P → Bool) (g : Gate P) :
    g.passes (fun p => (.ok (answer p) : Except ε Bool)) =
      .ok (match g.kind with
        | .whenTrue => g.condition.holds answer
        | .whenFalse => !g.condition.holds answer) := by
  rw [passes, Condition.evaluate_of_answers fun _ _ => rfl]
  rfl

/-- **Evaluation is monotone in the leaves.** If no leaf of the tree turns from true to false, the
    outcome does not; a gate that asks for the condition does not turn from passing to blocked, and
    a gate that asks for its opposite does not turn from blocked to passing. -/
theorem Condition.evaluate_monotone (c : Condition P) (answer answer' : P → Bool)
    (h : ∀ p ∈ c.leafList, answer p = true → answer' p = true) :
    let test : P → Except ε Bool := fun p => .ok (answer p)
    let test' : P → Except ε Bool := fun p => .ok (answer' p)
    (c.evaluate test = .ok true → c.evaluate test' = .ok true) ∧
      (Gate.passes test ⟨.whenTrue, c⟩ = .ok true → Gate.passes test' ⟨.whenTrue, c⟩ = .ok true) ∧
      (Gate.passes test ⟨.whenFalse, c⟩ = .ok false →
        Gate.passes test' ⟨.whenFalse, c⟩ = .ok false) := by
  intro test test'
  have hmono : c.holds answer = true → c.holds answer' = true := holds_mono h
  have hevaluate : c.evaluate test = .ok (c.holds answer) := evaluate_of_answers fun _ _ => rfl
  have hevaluate' : c.evaluate test' = .ok (c.holds answer') := evaluate_of_answers fun _ _ => rfl
  rw [hevaluate, hevaluate', Gate.passes_of_answers, Gate.passes_of_answers,
    Gate.passes_of_answers, Gate.passes_of_answers]
  simp only [Except.ok.injEq, Bool.not_eq_false']
  exact ⟨hmono, hmono, hmono⟩

/-- Leaves 2 and 5 turn to true. The first evaluation tests leaf 4, the second one does not. -/
theorem Condition.evaluate_monotone_two_levels :
    let c : Condition Nat := anyOf [allOf [leaf 1, leaf 2, allOf []], anyOf [], leaf 4, leaf 5]
    let answer : Nat → Bool := fun n => n = 1 ∨ n = 4
    let answer' : Nat → Bool := fun n => n ≠ 3
    let test : Nat → Except String Bool := fun n => .ok (answer n)
    let test' : Nat → Except String Bool := fun n => .ok (answer' n)
    (∀ p ∈ c.leafList, answer p = true → answer' p = true) ∧
      (tested test c).map Prod.snd = [1, 2, 4] ∧ (tested test' c).map Prod.snd = [1, 2] ∧
      c.evaluate test' = .ok true ∧ Gate.passes test' ⟨.whenTrue, c⟩ = .ok true ∧
      Gate.passes test' ⟨.whenFalse, c⟩ = .ok false := by
  intro c answer answer' test test'
  have h : ∀ p ∈ c.leafList, answer p = true → answer' p = true := by decide
  obtain ⟨hevaluate, hasks, hrefuses⟩ := evaluate_monotone (ε := String) c answer answer' h
  exact ⟨h, rfl, rfl, hevaluate rfl, hasks rfl, hrefuses rfl⟩

end Verdict
