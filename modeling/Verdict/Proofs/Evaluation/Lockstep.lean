import Verdict.Proofs.Evaluation.Report
import Verdict.Proofs.Evaluation.ShortCircuit

/-!
# Evaluations in lockstep

Which leaf is tested next depends on the answers so far. So two tests that answer alike at the
leaves that one of them is called for are called for the same leaves, whatever they would answer at
the others.

* `consult`: a test called for a list of leaves, one after the other;
* `consult_calls`: called for the leaves of an evaluation, it answers as in the evaluation and
  leaves the same state;
* **`lockstep_reportAt`**: if another test answers these leaves alike, it has the same calls and the
  same report;
* `result_reportAt_stateless`: what this says of tests that keep no state;
* **`report_explains`**: so a report holds all that its outcome depends on.
-/

namespace Verdict

open Writing

variable {P σ τ ε : Type}

/-! ## 1. Leaves in a row -/

/-- Calls a test for leaves in a row, also behind one that fails: its answers, and the state behind
    them. -/
def consult (test : P → Testing σ ε Bool) : List P → σ → List (Except ε Bool) × σ
  | [], s => ([], s)
  | p :: rest, s =>
    let behind := consult test rest ((test p).result s).2
    (((test p).result s).1 :: behind.1, behind.2)

theorem length_consult (test : P → Testing σ ε Bool) (ps : List P) (s : σ) :
    (consult test ps s).1.length = ps.length := by
  induction ps generalizing s with
  | nil => rfl
  | cons p rest ih => exact congrArg (· + 1) (ih _)

theorem consult_append (test : P → Testing σ ε Bool) (ps qs : List P) (s : σ) :
    consult test (ps ++ qs) s =
      ((consult test ps s).1 ++ (consult test qs (consult test ps s).2).1,
        (consult test qs (consult test ps s).2).2) := by
  induction ps generalizing s with
  | nil => rfl
  | cons p rest ih =>
    rw [List.cons_append, consult, ih]
    rfl

/-- A test that keeps no state answers each leaf by itself. -/
theorem consult_stateless (test : P → Except ε Bool) (ps : List P) (s : Unit) :
    (consult (stateless test) ps s).1 = ps.map test := by
  induction ps with
  | nil => rfl
  | cons p rest ih =>
    rw [consult, result_stateless, List.map_cons]
    exact congrArg (test p :: ·) ih

namespace Condition

mutual

/-- The answers of an evaluation are those of its leaves in a row, and so is the state that it
    leaves. -/
theorem consult_calls (test : P → Testing σ ε Bool) (c : Condition P) (s : σ) :
    consult test ((c.calls test s).map Prod.fst) s =
      ((c.calls test s).map Prod.snd, ((c.evaluate test).result s).2) := by
  match c with
  | leaf p => rfl
  | composite junction children => exact consult_callsAll test junction children s

theorem consult_callsAll (test : P → Testing σ ε Bool) (junction : Junction)
    (cs : List (Condition P)) (s : σ) :
    consult test ((callsAll test junction cs s).map Prod.fst) s =
      ((callsAll test junction cs s).map Prod.snd,
        ((evaluateAll test junction cs).result s).2) := by
  match cs with
  | [] => rfl
  | c :: rest =>
    rw [callsAll, List.map_append, List.map_append, consult_append, consult_calls test c s,
      result_evaluateAll_cons]
    rcases (c.evaluate test).result s with ⟨e | b, s₁⟩
    · rfl
    · dsimp only
      split
      · rfl
      · rw [consult_callsAll test junction rest s₁]

end

/-! ## 2. Two tests -/

/-- An evaluation is what the report says of its outcome. -/
theorem result_evaluate_eq (test : P → Testing σ ε Bool) (path : List Nat) (c : Condition P)
    (s : σ) : (c.evaluate test).result s =
      (((c.reportAt test path).result s).1.map Report.result,
        ((c.reportAt test path).result s).2) := by
  rw [← map_result_reportAt test path c, result_map]

mutual

/-- **A test that answers the leaves of an evaluation alike has its calls and its report.** -/
theorem lockstep_reportAt {test : P → Testing σ ε Bool} {test' : P → Testing τ ε Bool}
    (path : List Nat) {c : Condition P} {s : σ} {s' : τ}
    (h : (consult test' ((c.calls test s).map Prod.fst) s').1 = (c.calls test s).map Prod.snd) :
    c.calls test' s' = c.calls test s ∧
      ((c.reportAt test' path).result s').1 = ((c.reportAt test path).result s).1 := by
  match c with
  | leaf p =>
    have hanswer : ((test' p).result s').1 = ((test p).result s).1 := (List.cons.inj h).1
    refine ⟨congrArg (fun answer => [(p, answer)]) hanswer, ?_⟩
    rw [reportAt, reportAt, result_bind, result_bind]
    generalize (test p).result s = run, (test' p).result s' = run' at hanswer
    obtain ⟨e | b, s₁⟩ := run <;> obtain ⟨e' | b', s₁'⟩ := run' <;> cases hanswer <;> rfl
  | composite junction children => exact lockstep_reportAll path 0 h

theorem lockstep_reportAll {test : P → Testing σ ε Bool} {test' : P → Testing τ ε Bool}
    (path : List Nat) {junction : Junction} (index : Nat) {cs : List (Condition P)} {s : σ} {s' : τ}
    (h : (consult test' ((callsAll test junction cs s).map Prod.fst) s').1 =
      (callsAll test junction cs s).map Prod.snd) :
    callsAll test' junction cs s' = callsAll test junction cs s ∧
      ((reportAll test' path junction index cs).result s').1 =
        ((reportAll test path junction index cs).result s).1 := by
  match cs with
  | [] => exact ⟨rfl, rfl⟩
  | c :: rest =>
    rw [callsAll, List.map_append, List.map_append, consult_append] at h
    obtain ⟨hfirst, hothers⟩ := List.append_inj h (by rw [length_consult]; simp)
    obtain ⟨hcalls, hreport⟩ := lockstep_reportAt (path ++ [index]) hfirst
    -- The second test goes on from the state that its own calls for the first child leave.
    have hstate := congrArg Prod.snd (consult_calls test' c s')
    rw [hcalls] at hstate
    rw [hstate] at hothers
    rw [callsAll, callsAll, hcalls, result_reportAll_cons, result_reportAll_cons]
    rw [result_evaluate_eq test (path ++ [index]), result_evaluate_eq test' (path ++ [index])]
      at hothers
    rw [result_evaluate_eq test (path ++ [index]), result_evaluate_eq test' (path ++ [index])]
    generalize (c.reportAt test (path ++ [index])).result s = run,
      (c.reportAt test' (path ++ [index])).result s' = run' at hothers hreport
    obtain ⟨e | first, s₁⟩ := run <;> obtain ⟨e' | first', s₁'⟩ := run' <;> cases hreport
    · exact ⟨rfl, rfl⟩
    · simp only [Except.map] at hothers ⊢
      by_cases hstops : first.result = junction.stopsOn
      · simp only [if_pos hstops, and_self]
      · rw [if_neg hstops] at hothers
        obtain ⟨hcalls, hreport⟩ := lockstep_reportAll path (index + 1) hothers
        simp only [if_neg hstops]
        refine ⟨congrArg _ hcalls, ?_⟩
        generalize (reportAll test path junction (index + 1) rest).result s₁ = run,
          (reportAll test' path junction (index + 1) rest).result s₁' = run' at hreport
        obtain ⟨e | others, s₂⟩ := run <;> obtain ⟨e' | others', s₂'⟩ := run' <;>
          cases hreport <;> rfl

end

/-! ## 3. Tests that keep no state -/

mutual

/-- A test that keeps no state is reported as what it answers. -/
theorem result_reportAt_stateless (test : P → Except ε Bool) (path : List Nat) (c : Condition P)
    (s : Unit) : (c.reportAt (stateless test) path).result s = (c.reportAt test path, s) := by
  match c with
  | leaf p =>
    rw [reportAt, reportAt, result_bind, result_stateless]
    cases test p <;> rfl
  | composite junction children =>
    exact result_reportAll_stateless test path junction 0 children s

theorem result_reportAll_stateless (test : P → Except ε Bool) (path : List Nat)
    (junction : Junction) (index : Nat) (cs : List (Condition P)) (s : Unit) :
    (reportAll (stateless test) path junction index cs).result s =
      (reportAll test path junction index cs, s) := by
  match cs with
  | [] => rfl
  | c :: rest =>
    rw [result_reportAll_cons, reportAll, result_reportAt_stateless test (path ++ [index]) c s]
    rcases c.reportAt test (path ++ [index]) with e | first
    · rfl
    · show _ = ((if first.result = junction.stopsOn then _ else _ : Except ε Report), s)
      dsimp only
      split
      · rfl
      · rw [result_reportAll_stateless test path junction (index + 1) rest s]
        rcases reportAll test path junction (index + 1) rest with e | others <;> rfl

end

/-- Two tests that agree at the leaves that one of them tests: called for these, one answers as the
    other does in its evaluation. -/
theorem consult_of_agrees {test test' : P → Except ε Bool} {c : Condition P}
    (h : ∀ call ∈ c.calls (stateless test) (), test' call.1 = test call.1) :
    (consult (stateless test') ((c.calls (stateless test) ()).map Prod.fst) ()).1 =
      (c.calls (stateless test) ()).map Prod.snd := by
  rw [consult_stateless, List.map_map]
  refine List.map_congr_left fun call hcall => ?_
  exact (h call hcall).trans (answer_of_mem_calls hcall).symm

/-! ## 4. What a report depends on -/

/-- **A report explains its outcome completely.** A test that answers as another one at every leaf
    that this one tests, fails with the same errors included, has its outcome, tests the same leaves
    in the same order and has the same report, whatever it answers elsewhere. So it is for tests
    that keep a state: there, what counts are the answers when the leaves tested are called for in a
    row. -/
theorem report_explains (c : Condition P) :
    (∀ {ε : Type} (test test' : P → Except ε Bool),
      (∀ leaf ∈ tested test c, test' leaf.2 = test leaf.2) →
        c.evaluate test' = c.evaluate test ∧ tested test' c = tested test c ∧
          c.report test' = c.report test) ∧
    ∀ {σ τ ε : Type} (test : P → Testing σ ε Bool) (test' : P → Testing τ ε Bool) (s : σ) (s' : τ),
      (consult test' ((c.calls test s).map Prod.fst) s').1 = (c.calls test s).map Prod.snd →
        ((c.evaluate test').result s').1 = ((c.evaluate test).result s).1 ∧
          c.calls test' s' = c.calls test s ∧
          ((c.report test').result s').1 = ((c.report test).result s).1 := by
  have hstateful : ∀ {σ τ ε : Type} (test : P → Testing σ ε Bool) (test' : P → Testing τ ε Bool)
      (s : σ) (s' : τ),
      (consult test' ((c.calls test s).map Prod.fst) s').1 = (c.calls test s).map Prod.snd →
        ((c.evaluate test').result s').1 = ((c.evaluate test).result s).1 ∧
          c.calls test' s' = c.calls test s ∧
          ((c.report test').result s').1 = ((c.report test).result s).1 := by
    intro σ τ ε test test' s s' h
    obtain ⟨hcalls, hreport⟩ := lockstep_reportAt [] h
    refine ⟨?_, hcalls, hreport⟩
    rw [result_evaluate_eq test [], result_evaluate_eq test' [], hreport]
  refine ⟨fun test test' h => ?_, hstateful⟩
  rw [tested_eq_calls] at h ⊢
  have hlabelled : ∀ call ∈ c.labelled.calls (stateless (test ∘ Prod.snd)) (),
      test' call.1.2 = test call.1.2 := fun call hcall => h call.1 (List.mem_map_of_mem hcall)
  have hplain : ∀ call ∈ c.calls (stateless test) (), test' call.1 = test call.1 := by
    intro call hcall
    rw [calls_labelled] at hcall
    obtain ⟨labelledCall, hmem, rfl⟩ := List.mem_map.mp hcall
    exact hlabelled _ hmem
  obtain ⟨hevaluate, -, hreport⟩ := hstateful _ _ () () (consult_of_agrees hplain)
  rw [result_evaluate_stateless, result_evaluate_stateless] at hevaluate
  rw [report, report, result_reportAt_stateless, result_reportAt_stateless] at hreport
  refine ⟨hevaluate, ?_, hreport⟩
  rw [tested_eq_calls, (lockstep_reportAt [] (consult_of_agrees hlabelled)).1]

/-- Two tests that differ at the leaves 3 and 5, which are passed over. Of the same test with a
    count of its calls, it matters only what it answers by then. -/
theorem report_explains_passed_over :
    let c : Condition Nat := anyOf [allOf [leaf 1, leaf 2, leaf 3], leaf 4, leaf 5]
    let test : Nat → Except String Bool := fun n => .ok (n ≠ 2)
    let test' : Nat → Except String Bool := fun n =>
      if n = 5 then .error "no answer" else .ok (n = 1 ∨ n = 4)
    let counting : Nat → Testing Nat String Bool := fun n => do
      modify (· + 1)
      if (← get) > 3 then throw "no more calls" else return n ≠ 2
    let r : Report := ⟨true, [⟨[0, 0], true⟩, ⟨[0, 1], false⟩, ⟨[1], true⟩], 2⟩
    tested test c = [([0, 0], 1), ([0, 1], 2), ([1], 4)] ∧
      (∀ leaf ∈ tested test c, test' leaf.2 = test leaf.2) ∧
      c.report test' = .ok r ∧ tested test' c = tested test c ∧ c.evaluate test' = .ok true ∧
      ((c.report counting).result 0).1 = .ok r := by
  intro c test test' counting r
  have htested : tested test c = [([0, 0], 1), ([0, 1], 2), ([1], 4)] := rfl
  have hagree : ∀ leaf ∈ tested test c, test' leaf.2 = test leaf.2 := by
    rw [htested]
    exact List.forall_mem_cons.mpr ⟨rfl, List.forall_mem_cons.mpr ⟨rfl,
      List.forall_mem_singleton.mpr rfl⟩⟩
  obtain ⟨hstateless, hstateful⟩ := report_explains c
  obtain ⟨hevaluate, htested', hreport⟩ := hstateless test test' hagree
  obtain ⟨-, -, hcounting⟩ := hstateful (stateless test) counting () 0 rfl
  have hplain := congrArg Prod.fst (result_reportAt_stateless test [] c ())
  exact ⟨htested, hagree, hreport, htested', hevaluate, hcounting.trans hplain⟩

end Condition

end Verdict
