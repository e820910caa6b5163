import Verdict.Proofs.Evaluation.Calls

/-!
# Reports of evaluations

* **`map_result_reportAt`**: making a report is an evaluation, whatever a test may do;
* `result_reportAll_cons`: the report of the first child of a composite, and of the others;
* `Records`: a report whose leaf outcomes are the calls of the evaluation, and whose counts are
  those of the tree;
* `records_of_reportAt`: every report is one;
* **`report_faithful`**: what a report says, in terms of the tree.
-/

namespace Verdict.Condition

open Writing

variable {P σ ε : Type}

/-! ## 1. The outcome -/

section Monad

variable {m : Type → Type} [Monad m] [LawfulMonad m]

mutual

/-- **Making a report is an evaluation**: the same tests run in the same order, and the outcome is
    the same. -/
theorem map_result_reportAt (test : P → m Bool) (path : List Nat) (c : Condition P) :
    Report.result <$> c.reportAt test path = c.evaluate test := by
  match c with
  | leaf p =>
    rw [reportAt, evaluate, map_bind]
    simp only [map_pure, bind_pure]
  | composite junction children =>
    exact map_result_reportAll test path junction 0 children

theorem map_result_reportAll (test : P → m Bool) (path : List Nat) (junction : Junction)
    (index : Nat) (cs : List (Condition P)) :
    Report.result <$> reportAll test path junction index cs = evaluateAll test junction cs := by
  match cs with
  | [] =>
    rw [reportAll, evaluateAll, map_pure]
  | c :: rest =>
    rw [reportAll, evaluateAll, ← map_result_reportAt test (path ++ [index]) c, map_bind,
      bind_map_left]
    refine bind_congr fun first => ?_
    by_cases h : first.result = junction.stopsOn
    · rw [if_pos h, if_pos h, map_pure, h]
    · rw [if_neg h, if_neg h, map_bind, ← map_result_reportAll test path junction (index + 1) rest]
      simp only [map_pure, bind_pure_comp]

end

end Monad

/-- A run that makes a report is a run of the evaluation. -/
theorem result_evaluate_of_reportAt {test : P → Testing σ ε Bool} {path : List Nat}
    {c : Condition P} {s s' : σ} {r : Report}
    (h : (c.reportAt test path).result s = (.ok r, s')) :
    (c.evaluate test).result s = (.ok r.result, s') := by
  rw [← map_result_reportAt test path c, map_eq_pure_bind, result_bind_of_ok h]
  rfl

/-! ## 2. The record -/

/-- The report of the first child of a composite settles it, fails, or leaves it to the others. -/
theorem result_reportAll_cons (test : P → Testing σ ε Bool) (path : List Nat) (junction : Junction)
    (index : Nat) (c : Condition P) (rest : List (Condition P)) (s : σ) :
    (reportAll test path junction index (c :: rest)).result s =
      match (c.reportAt test (path ++ [index])).result s with
      | (.error e, s') => (.error e, s')
      | (.ok first, s') =>
        if first.result = junction.stopsOn then
          (.ok { first with skipped := first.skipped + leafCounts rest }, s')
        else
          match (reportAll test path junction (index + 1) rest).result s' with
          | (.error e, s'') => (.error e, s'')
          | (.ok others, s'') =>
            (.ok ⟨others.result, first.tested ++ others.tested, first.skipped + others.skipped⟩,
              s'') := by
  rw [reportAll, result_bind]
  rcases (c.reportAt test (path ++ [index])).result s with ⟨e | first, s'⟩
  · rfl
  · dsimp only
    split
    · rfl
    · rw [result_bind]
      rcases (reportAll test path junction (index + 1) rest).result s' with ⟨_ | _, _⟩ <;> rfl

/-- A report of trees with these labelled calls and this number of leaves: it has the answer of
    every call at its place, and counts every leaf once. -/
structure Records (path : List Nat) (calls : List ((List Nat × P) × Except ε Bool)) (leaves : Nat)
    (r : Report) : Prop where
  tested_eq : r.tested.map (fun o => (o.path, Except.ok o.result)) =
    calls.map fun call => (path ++ call.1.1, call.2)
  count_eq : r.tested.length + r.skipped = leaves

namespace Records

variable {path : List Nat} {index n leaves leaves' : Nat}
  {calls calls' : List ((List Nat × P) × Except ε Bool)} {r r' : Report}

/-- The record of a child, from where its parent stands. -/
theorem under (h : Records (path ++ [index]) calls leaves r) :
    Records path (calls.map fun call => (Condition.under index call.1, call.2)) leaves r := by
  refine ⟨?_, h.count_eq⟩
  rw [h.tested_eq, List.map_map]
  refine List.map_congr_left fun call _ => ?_
  show ((path ++ [index]) ++ call.1.1, call.2) = (path ++ index :: call.1.1, call.2)
  rw [List.append_assoc, List.singleton_append]

/-- Leaves that are passed over. -/
theorem skip (h : Records path calls leaves r) (n : Nat) :
    Records path calls (leaves + n) { r with skipped := r.skipped + n } := by
  refine ⟨h.tested_eq, ?_⟩
  show r.tested.length + (r.skipped + n) = leaves + n
  rw [← Nat.add_assoc, h.count_eq]

/-- A record behind another. -/
theorem append (h : Records path calls leaves r) (h' : Records path calls' leaves' r') :
    Records path (calls ++ calls') (leaves + leaves')
      ⟨r'.result, r.tested ++ r'.tested, r.skipped + r'.skipped⟩ := by
  refine ⟨?_, ?_⟩
  · show (r.tested ++ r'.tested).map _ = _
    rw [List.map_append, List.map_append, h.tested_eq, h'.tested_eq]
  · show (r.tested ++ r'.tested).length + (r.skipped + r'.skipped) = _
    have hcount := h.count_eq
    have hcount' := h'.count_eq
    rw [List.length_append]
    omega

end Records

mutual

/-- Every report records its evaluation. -/
theorem records_of_reportAt {test : P → Testing σ ε Bool} {path : List Nat} {c : Condition P}
    {s s' : σ} {r : Report} (h : (c.reportAt test path).result s = (.ok r, s')) :
    Records path (c.labelled.calls (fun leaf => test leaf.2) s) c.leafCount r := by
  match c with
  | leaf p =>
    rw [reportAt, result_bind] at h
    rcases htest : (test p).result s with ⟨e | b, s₁⟩
    · rw [htest] at h
      cases h
    · rw [htest] at h
      cases h
      refine ⟨?_, rfl⟩
      show [(path, Except.ok b)] = [(path ++ [], ((test p).result s).1)]
      rw [htest, List.append_nil]
  | composite junction children => exact records_of_reportAll h

theorem records_of_reportAll {test : P → Testing σ ε Bool} {path : List Nat} {junction : Junction}
    {index : Nat} {cs : List (Condition P)} {s s' : σ} {r : Report}
    (h : (reportAll test path junction index cs).result s = (.ok r, s')) :
    Records path (callsAll (fun leaf => test leaf.2) junction (labelledFrom index cs) s)
      (leafCounts cs) r := by
  match cs with
  | [] =>
    cases h
    exact ⟨rfl, rfl⟩
  | c :: rest =>
    rw [result_reportAll_cons] at h
    rw [callsAll_labelledFrom_cons]
    rcases hfirst : (c.reportAt test (path ++ [index])).result s with ⟨e | first, s₁⟩
    · rw [hfirst] at h
      cases h
    · have hc := records_of_reportAt hfirst
      rw [hfirst] at h
      rw [result_evaluate_of_reportAt hfirst]
      dsimp only at h ⊢
      by_cases hstops : first.result = junction.stopsOn
      · rw [if_pos hstops] at h ⊢
        cases h
        rw [List.append_nil]
        exact hc.under.skip (leafCounts rest)
      · rw [if_neg hstops] at h ⊢
        rcases hothers : (reportAll test path junction (index + 1) rest).result s₁ with
          ⟨e | others, s₂⟩
        · rw [hothers] at h
          cases h
        · rw [hothers] at h
          cases h
          exact hc.under.append (records_of_reportAll hothers)

end

/-! ## 3. What a report says -/

/-- **Making a report is evaluating with a faithful record.** In every monad the tests run as in
    the evaluation and the outcome is the same; so it is where a test keeps a list of its calls. A
    report that is made has, in the order of the calls, the leaf and the answer of each; the paths
    to these leaves increase in lexicographic order; and every leaf of the tree is counted once, as
    tested or as skipped. -/
theorem report_faithful (c : Condition P) :
    (∀ {m : Type → Type} [Monad m] [LawfulMonad m] (test : P → m Bool),
      Report.result <$> c.report test = c.evaluate test) ∧
    ∀ {σ ε : Type} (test : P → Testing σ ε Bool) (s s' : σ) (r : Report),
      (c.report test).result s = (.ok r, s') →
        ∃ calls, (c.evaluate (observed test)).result (s, []) = (.ok r.result, s', calls) ∧
          r.tested.map (fun o => (c.at? o.path, Except.ok o.result)) =
            calls.map (fun call => (some (leaf call.1), call.2)) ∧
          (r.tested.map LeafOutcome.path).Pairwise (· < ·) ∧
          r.tested.length + r.skipped = c.leafCount := by
  refine ⟨fun test => map_result_reportAt test [] c, fun test s s' r h => ?_⟩
  have hrecords := records_of_reportAt h
  let labelledCalls := c.labelled.calls (fun leaf => test leaf.2) s
  refine ⟨c.calls test s, ?_, ?_, ?_, hrecords.count_eq⟩
  · rw [result_evaluate_observed, result_evaluate_of_reportAt h]
    rfl
  · calc r.tested.map (fun o => (c.at? o.path, Except.ok o.result))
        = (r.tested.map fun o => (o.path, Except.ok o.result)).map fun o => (c.at? o.1, o.2) := by
          rw [List.map_map]
          rfl
      _ = labelledCalls.map fun call => (c.at? call.1.1, call.2) := by
          rw [hrecords.tested_eq, List.map_map]
          rfl
      _ = labelledCalls.map fun call => (some (leaf call.1.2), call.2) := by
          refine List.map_congr_left fun call hcall => ?_
          rw [at?_of_mem_calls_labelled hcall]
      _ = (c.calls test s).map fun call => (some (leaf call.1), call.2) := by
          rw [calls_labelled, List.map_map]
          rfl
  · have hpaths : r.tested.map LeafOutcome.path = labelledCalls.map fun call => call.1.1 := by
      have h := congrArg (List.map Prod.fst) hrecords.tested_eq
      rwa [List.map_map, List.map_map] at h
    rw [hpaths]
    exact pairwise_calls_labelled _ c s

/-- A report over two levels, with a test that counts its calls and fails at a leaf that is
    skipped. -/
theorem report_faithful_two_levels :
    let c : Condition Nat := anyOf [allOf [leaf 1, leaf 2, leaf 3], leaf 4, leaf 5]
    let test : Nat → Testing Nat String Bool := fun n => do
      modify (· + 1)
      if n = 5 then throw "no answer" else return n ≠ 2
    let r : Report := ⟨true, [⟨[0, 0], true⟩, ⟨[0, 1], false⟩, ⟨[1], true⟩], 2⟩
    Report.result <$> c.report test = c.evaluate test ∧
      (c.report test).result 0 = (.ok r, 3) ∧
      ∃ calls, (c.evaluate (observed test)).result (0, []) = (.ok true, 3, calls) ∧
        r.tested.map (fun o => (c.at? o.path, Except.ok o.result)) =
          calls.map fun call => (some (leaf call.1), call.2) := by
  intro c test r
  have hrun : (c.report test).result 0 = (.ok r, 3) := rfl
  obtain ⟨hresult, hrecord⟩ := report_faithful c
  obtain ⟨calls, hcalls, htested, -, -⟩ := hrecord test 0 3 r hrun
  exact ⟨hresult test, hrun, calls, hcalls, htested⟩

end Verdict.Condition
