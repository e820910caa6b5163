import Verdict.Condition.Evaluation
import Verdict.Proofs.Condition.Paths
import Verdict.Proofs.Sink

/-!
# Which leaves an evaluation tests

A test may fail, and it may change a state, which is kept after a failure (`Testing`).

* `observed`: a test that also keeps a list of its calls, each with its answer;
* `result_evaluateAll_cons`: the first child of a composite, and what comes behind it;
* `Condition.calls`: the calls of an evaluation, by recursion on the tree;
* **`result_evaluate_observed`**: keeping a list of the calls changes nothing else;
* `evaluate_labelled`, `calls_labelled`: neither does telling the leaves apart by their paths;
* `sublist_calls`, `ends_calls`: the calls are of leaves in order, and end with the first failure.
-/

namespace Verdict

open Writing

/-- What a test does: it may fail, and it may change a state, which is kept after a failure. -/
abbrev Testing (σ ε α : Type) := Writing σ ε α

variable {P Q σ ε : Type}

/-- A test that also puts every call and its answer at the end of a list. -/
def observed (test : P → Testing σ ε Bool) (p : P) :
    Testing (σ × List (P × Except ε Bool)) ε Bool := do
  let (s, calls) ← get
  let (answer, s') := (test p).result s
  set (s', calls ++ [(p, answer)])
  ofExcept answer

theorem result_observed (test : P → Testing σ ε Bool) (p : P) (s : σ)
    (calls : List (P × Except ε Bool)) :
    (observed test p).result (s, calls) =
      (((test p).result s).1, ((test p).result s).2, calls ++ [(p, ((test p).result s).1)]) := by
  show (match (test p).result s with
    | (answer, s') => Writing.result (ofExcept answer) (s', calls ++ [(p, answer)])) = _
  rcases (test p).result s with ⟨_ | _, s'⟩ <;> rfl

namespace Condition

/-! ## 1. Composites -/

section Monad

variable {m : Type → Type} [Monad m]

mutual

/-- Leaves may be carried into another type before the evaluation or by its test. -/
theorem evaluate_map (f : P → Q) (test : Q → m Bool) (c : Condition P) :
    (c.map f).evaluate test = c.evaluate (test ∘ f) := by
  match c with
  | leaf p => rfl
  | composite junction children =>
    rw [map, evaluate, evaluate, evaluateAll_mapAll f test junction children]

theorem evaluateAll_mapAll (f : P → Q) (test : Q → m Bool) (junction : Junction)
    (cs : List (Condition P)) :
    evaluateAll test junction (mapAll f cs) = evaluateAll (test ∘ f) junction cs := by
  match cs with
  | [] => rfl
  | c :: rest =>
    rw [mapAll, evaluateAll, evaluateAll, evaluate_map f test c,
      evaluateAll_mapAll f test junction rest]

end

/-- The labels of a tree change nothing in its evaluation. -/
theorem evaluate_labelled (test : P → m Bool) (c : Condition P) :
    c.labelled.evaluate (fun leaf => test leaf.2) = c.evaluate test := by
  have h := evaluate_map Prod.snd test c.labelled
  rw [map_snd_labelled] at h
  exact h.symm

end Monad

/-- The first child of a composite settles it, fails, or leaves it to the others. -/
theorem result_evaluateAll_cons (test : P → Testing σ ε Bool) (junction : Junction)
    (c : Condition P) (rest : List (Condition P)) (s : σ) :
    (evaluateAll test junction (c :: rest)).result s =
      match (c.evaluate test).result s with
      | (.error e, s') => (.error e, s')
      | (.ok b, s') =>
        if b = junction.stopsOn then (.ok b, s')
        else (evaluateAll test junction rest).result s' := by
  rw [evaluateAll, result_bind]
  rcases (c.evaluate test).result s with ⟨e | b, s'⟩
  · rfl
  · dsimp only
    by_cases h : b = junction.stopsOn
    · rw [if_pos h, if_pos h, h]
      rfl
    · rw [if_neg h, if_neg h]

/-! ## 2. Calls -/

mutual

/-- The calls of an evaluation that starts in a state, each with its answer. -/
def calls (test : P → Testing σ ε Bool) : Condition P → σ → List (P × Except ε Bool)
  | leaf p, s => [(p, ((test p).result s).1)]
  | composite junction children, s => callsAll test junction children s

/-- The calls of an evaluation of the children of a composite: those of the first child, and those
    of the others where it settles nothing. -/
def callsAll (test : P → Testing σ ε Bool) (junction : Junction) :
    List (Condition P) → σ → List (P × Except ε Bool)
  | [], _ => []
  | c :: rest, s =>
    c.calls test s ++
      match (c.evaluate test).result s with
      | (.error _, _) => []
      | (.ok b, s') => if b = junction.stopsOn then [] else callsAll test junction rest s'

end

mutual

/-- **Keeping a list of the calls changes nothing else**, and the list is that of the calls. -/
theorem result_evaluate_observed (test : P → Testing σ ε Bool) (c : Condition P) (s : σ)
    (before : List (P × Except ε Bool)) :
    (c.evaluate (observed test)).result (s, before) =
      (((c.evaluate test).result s).1, ((c.evaluate test).result s).2,
        before ++ c.calls test s) := by
  match c with
  | leaf p => exact result_observed test p s before
  | composite junction children =>
    exact result_evaluateAll_observed test junction children s before

theorem result_evaluateAll_observed (test : P → Testing σ ε Bool) (junction : Junction)
    (cs : List (Condition P)) (s : σ) (before : List (P × Except ε Bool)) :
    (evaluateAll (observed test) junction cs).result (s, before) =
      (((evaluateAll test junction cs).result s).1, ((evaluateAll test junction cs).result s).2,
        before ++ callsAll test junction cs s) := by
  match cs with
  | [] =>
    rw [callsAll, List.append_nil]
    rfl
  | c :: rest =>
    rw [result_evaluateAll_cons, result_evaluateAll_cons, callsAll,
      result_evaluate_observed test c s before]
    -- The other children, if they are evaluated, start in the state that the first one leaves.
    rcases (c.evaluate test).result s with ⟨e | b, s'⟩
    · rw [List.append_nil]
    · dsimp only
      split
      · rw [List.append_nil]
      · rw [result_evaluateAll_observed test junction rest s', List.append_assoc]

end

mutual

/-- Leaves may be carried into another type before the evaluation or by its test. -/
theorem calls_map (f : P → Q) (test : Q → Testing σ ε Bool) (c : Condition P) (s : σ) :
    (c.map f).calls test s = (c.calls (test ∘ f) s).map fun call => (f call.1, call.2) := by
  match c with
  | leaf p => rfl
  | composite junction children =>
    rw [map, calls, calls, callsAll_mapAll f test junction children s]

theorem callsAll_mapAll (f : P → Q) (test : Q → Testing σ ε Bool) (junction : Junction)
    (cs : List (Condition P)) (s : σ) :
    callsAll test junction (mapAll f cs) s =
      (callsAll (test ∘ f) junction cs s).map fun call => (f call.1, call.2) := by
  match cs with
  | [] => rfl
  | c :: rest =>
    rw [mapAll, callsAll, callsAll, List.map_append, calls_map f test c s, evaluate_map]
    rcases (c.evaluate (test ∘ f)).result s with ⟨e | b, s'⟩
    · rfl
    · dsimp only
      split
      · rfl
      · rw [callsAll_mapAll f test junction rest s']

end

/-- The calls of the first of several labelled children, and those of the others. -/
theorem callsAll_labelledFrom_cons (test : P → Testing σ ε Bool) (junction : Junction)
    (index : Nat) (c : Condition P) (rest : List (Condition P)) (s : σ) :
    callsAll (fun leaf => test leaf.2) junction (labelledFrom index (c :: rest)) s =
      ((c.labelled.calls (fun leaf => test leaf.2) s).map
          fun call => (under index call.1, call.2)) ++
        match (c.evaluate test).result s with
        | (.error _, _) => []
        | (.ok b, s') =>
          if b = junction.stopsOn then []
          else callsAll (fun leaf => test leaf.2) junction (labelledFrom (index + 1) rest) s' := by
  have hunder : (fun leaf => test leaf.2) ∘ under index =
      (fun leaf => test leaf.2 : List Nat × P → _) := rfl
  rw [labelledFrom, callsAll, calls_map, evaluate_map, hunder, evaluate_labelled]

/-- The calls of a tree are those of its labelled tree. -/
theorem calls_labelled (test : P → Testing σ ε Bool) (c : Condition P) (s : σ) :
    c.calls test s =
      (c.labelled.calls (fun leaf => test leaf.2) s).map fun call => (call.1.2, call.2) := by
  have h := calls_map Prod.snd test c.labelled s
  rw [map_snd_labelled] at h
  exact h

mutual

/-- **Every call is one of a leaf of the tree, and the calls come in the order of the leaves.** -/
theorem sublist_calls (test : P → Testing σ ε Bool) (c : Condition P) (s : σ) :
    ((c.calls test s).map Prod.fst).Sublist c.leafList := by
  match c with
  | leaf p => exact List.Sublist.refl _
  | composite junction children => exact sublist_callsAll test junction children s

theorem sublist_callsAll (test : P → Testing σ ε Bool) (junction : Junction)
    (cs : List (Condition P)) (s : σ) :
    ((callsAll test junction cs s).map Prod.fst).Sublist (leafLists cs) := by
  match cs with
  | [] => exact List.Sublist.refl _
  | c :: rest =>
    rw [callsAll, leafLists, List.map_append]
    refine (sublist_calls test c s).append ?_
    rcases (c.evaluate test).result s with ⟨e | b, s'⟩
    · exact List.nil_sublist _
    · dsimp only
      split
      · exact List.nil_sublist _
      · exact sublist_callsAll test junction rest s'

end

/-- How the calls of an evaluation end: all of them have been answered, or the last one has failed
    with the error of the evaluation and those before it have been answered. -/
def Ends (outcome : Except ε Bool) (calls : List (P × Except ε Bool)) : Prop :=
  match outcome with
  | .ok _ => ∀ call ∈ calls, ∃ b, call.2 = .ok b
  | .error e => ∃ before p, calls = before ++ [(p, .error e)] ∧ ∀ call ∈ before, ∃ b, call.2 = .ok b

theorem Ends.append {outcome : Except ε Bool} {before calls : List (P × Except ε Bool)} {b : Bool}
    (hbefore : Ends (.ok b) before) (h : Ends outcome calls) : Ends outcome (before ++ calls) := by
  cases outcome with
  | ok b' =>
    intro call hcall
    rcases List.mem_append.mp hcall with hcall | hcall
    · exact hbefore call hcall
    · exact h call hcall
  | error e =>
    obtain ⟨middle, p, rfl, hmiddle⟩ := h
    refine ⟨before ++ middle, p, (List.append_assoc _ _ _).symm, fun call hcall => ?_⟩
    rcases List.mem_append.mp hcall with hcall | hcall
    · exact hbefore call hcall
    · exact hmiddle call hcall

mutual

/-- **An evaluation ends with its first failing call, and fails with the error of that call.** -/
theorem ends_calls (test : P → Testing σ ε Bool) (c : Condition P) (s : σ) :
    Ends ((c.evaluate test).result s).1 (c.calls test s) := by
  match c with
  | leaf p =>
    show Ends ((test p).result s).1 [(p, ((test p).result s).1)]
    cases ((test p).result s).1 with
    | ok b =>
      intro call hcall
      obtain rfl := List.mem_singleton.mp hcall
      exact ⟨b, rfl⟩
    | error e => exact ⟨[], p, rfl, fun _ h => by cases h⟩
  | composite junction children => exact ends_callsAll test junction children s

theorem ends_callsAll (test : P → Testing σ ε Bool) (junction : Junction) (cs : List (Condition P))
    (s : σ) : Ends ((evaluateAll test junction cs).result s).1 (callsAll test junction cs s) := by
  match cs with
  | [] =>
    intro call hcall
    cases hcall
  | c :: rest =>
    have hc := ends_calls test c s
    rw [result_evaluateAll_cons, callsAll]
    rcases hrun : (c.evaluate test).result s with ⟨e | b, s'⟩
    · rw [hrun] at hc
      rw [List.append_nil]
      exact hc
    · rw [hrun] at hc
      dsimp only
      split
      · rw [List.append_nil]
        exact hc
      · exact hc.append (ends_callsAll test junction rest s')

end

/-- Every labelled call stands at the end of its path. -/
theorem at?_of_mem_calls_labelled {test : List Nat × P → Testing σ ε Bool} {c : Condition P} {s : σ}
    {call : (List Nat × P) × Except ε Bool} (h : call ∈ c.labelled.calls test s) :
    c.at? call.1.1 = some (leaf call.1.2) :=
  mem_leafList_labelled.mp ((sublist_calls test c.labelled s).subset (List.mem_map_of_mem h))

/-- The paths of labelled calls increase in lexicographic order. -/
theorem pairwise_calls_labelled (test : List Nat × P → Testing σ ε Bool) (c : Condition P) (s : σ) :
    ((c.labelled.calls test s).map fun call => call.1.1).Pairwise (· < ·) := by
  have hsublist := (sublist_calls test c.labelled s).map Prod.fst
  rw [List.map_map] at hsublist
  exact (pairwise_leafList_labelled c).sublist hsublist

end Condition

end Verdict
