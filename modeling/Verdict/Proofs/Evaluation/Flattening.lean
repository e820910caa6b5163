import Mathlib.Logic.Relation
import Verdict.Proofs.Evaluation.Report

/-!
# Flattening a condition

Composites inside composites of their kind, and composites of one child, can be left out wherever
they stand.

* `Flattens`: one composite of a tree is left out; `Relation.ReflTransGen Flattens`: any number;
* `Summary`: what a report says apart from the paths of its leaves;
* `Condition.summarize`: the summary of an evaluation, by recursion on the tree;
* **`map_summary_reportAt`**: reports have it, wherever the tree stands;
* **`summarizeAll_append`**: children in a row are evaluated in two parts, the second one where the
  first one settles nothing;
* `summarize_eq_of_flattens`, **`flattening_sound`**: so flattening changes nothing but paths.
-/

namespace Verdict

/-- What a report says apart from the paths of the leaves: its outcome, the answers of the leaves
    tested in order, and the number of leaves passed over. -/
structure Summary where
  result : Bool
  answers : List Bool
  skipped : Nat
  deriving DecidableEq

/-- A report without the paths of its leaves. -/
def Report.summary (r : Report) : Summary := ⟨r.result, r.tested.map LeafOutcome.result, r.skipped⟩

namespace Summary

/-- So many more leaves are passed over. -/
def skip (a : Summary) (n : Nat) : Summary := { a with skipped := a.skipped + n }

/-- One summary behind another, which has not settled the outcome. -/
def append (a b : Summary) : Summary := ⟨b.result, a.answers ++ b.answers, a.skipped + b.skipped⟩

/-- Nothing was tested. -/
def untested (result : Bool) : Summary := ⟨result, [], 0⟩

@[simp] theorem result_skip (a : Summary) (n : Nat) : (a.skip n).result = a.result := rfl

@[simp] theorem result_append (a b : Summary) : (a.append b).result = b.result := rfl

@[simp] theorem skip_zero (a : Summary) : a.skip 0 = a := rfl

theorem skip_skip (a : Summary) (n k : Nat) : (a.skip n).skip k = a.skip (n + k) := by
  simp [skip, Nat.add_assoc]

theorem append_skip (a b : Summary) (n : Nat) : (a.append b).skip n = a.append (b.skip n) := by
  simp [skip, append, Nat.add_assoc]

theorem append_assoc (a b c : Summary) : (a.append b).append c = a.append (b.append c) := by
  simp [append, Nat.add_assoc, List.append_assoc]

@[simp] theorem untested_append (result : Bool) (a : Summary) : (untested result).append a = a := by
  simp [untested, append]

@[simp] theorem append_untested (a : Summary) : a.append (untested a.result) = a := by
  simp [untested, append]

end Summary

namespace Condition

variable {P : Type} {m : Type → Type} [Monad m]

/-! ## 1. Summaries -/

theorem leafCounts_append (as bs : List (Condition P)) :
    leafCounts (as ++ bs) = leafCounts as + leafCounts bs := by
  induction as with
  | nil => exact (Nat.zero_add _).symm
  | cons c rest ih => rw [List.cons_append, leafCounts, leafCounts, ih, Nat.add_assoc]

mutual

/-- The summary of the evaluation of a tree. -/
def summarize (test : P → m Bool) : Condition P → m Summary
  | leaf p => do
    let result ← test p
    return ⟨result, [result], 0⟩
  | composite junction children => summarizeAll test junction children

/-- The summary of the evaluation of a composite with these children. -/
def summarizeAll (test : P → m Bool) (junction : Junction) : List (Condition P) → m Summary
  | [] => pure (.untested !junction.stopsOn)
  | c :: rest => do
    let first ← c.summarize test
    if first.result = junction.stopsOn then return first.skip (leafCounts rest)
    else return first.append (← summarizeAll test junction rest)

end

section Lawful

variable [LawfulMonad m]

mutual

/-- **The summary of a report does not depend on where the tree stands.** -/
theorem map_summary_reportAt (test : P → m Bool) (path : List Nat) (c : Condition P) :
    Report.summary <$> c.reportAt test path = c.summarize test := by
  match c with
  | leaf p =>
    rw [reportAt, summarize, map_bind]
    simp only [map_pure]
    rfl
  | composite junction children => exact map_summary_reportAll test path junction 0 children

theorem map_summary_reportAll (test : P → m Bool) (path : List Nat) (junction : Junction)
    (index : Nat) (cs : List (Condition P)) :
    Report.summary <$> reportAll test path junction index cs = summarizeAll test junction cs := by
  match cs with
  | [] =>
    rw [reportAll, summarizeAll, map_pure]
    rfl
  | c :: rest =>
    rw [reportAll, summarizeAll, ← map_summary_reportAt test (path ++ [index]) c, map_bind,
      bind_map_left]
    refine bind_congr fun first => ?_
    have hresult : first.summary.result = first.result := rfl
    rw [hresult]
    by_cases h : first.result = junction.stopsOn
    · rw [if_pos h, if_pos h, map_pure]
      rfl
    · rw [if_neg h, if_neg h, map_bind,
        ← map_summary_reportAll test path junction (index + 1) rest, bind_map_left]
      refine bind_congr fun others => ?_
      have happend : first.summary.append others.summary = Report.summary
          ⟨others.result, first.tested ++ others.tested, first.skipped + others.skipped⟩ := by
        simp [Report.summary, Summary.append]
      rw [map_pure, happend]

end

theorem map_result_summarize (test : P → m Bool) (c : Condition P) :
    Summary.result <$> c.summarize test = c.evaluate test := by
  rw [← map_summary_reportAt test [] c, Functor.map_map]
  exact map_result_reportAt test [] c

/-- **Children in a row are evaluated in two parts**: where the first part settles the outcome, the
    leaves of the second one are passed over. -/
theorem summarizeAll_append (test : P → m Bool) (junction : Junction)
    (as bs : List (Condition P)) :
    summarizeAll test junction (as ++ bs) = do
      let first ← summarizeAll test junction as
      if first.result = junction.stopsOn then return first.skip (leafCounts bs)
      else return first.append (← summarizeAll test junction bs) := by
  induction as with
  | nil =>
    have hopen : (Summary.untested !junction.stopsOn).result ≠ junction.stopsOn := by
      cases junction <;> decide
    rw [List.nil_append, summarizeAll, pure_bind, if_neg hopen]
    simp only [Summary.untested_append, bind_pure]
  | cons c rest ih =>
    rw [List.cons_append, summarizeAll, summarizeAll, bind_assoc]
    refine bind_congr fun first => ?_
    by_cases h : first.result = junction.stopsOn
    · rw [if_pos h, if_pos h, pure_bind, Summary.result_skip, if_pos h, Summary.skip_skip,
        leafCounts_append]
    · rw [if_neg h, if_neg h, ih, bind_assoc, bind_assoc]
      refine bind_congr fun others => ?_
      rw [pure_bind, Summary.result_append]
      by_cases h' : others.result = junction.stopsOn
      · rw [if_pos h', if_pos h', pure_bind, Summary.append_skip]
      · rw [if_neg h', if_neg h', bind_assoc]
        refine bind_congr fun behind => ?_
        rw [pure_bind, Summary.append_assoc]

/-- Children may be replaced behind others. -/
theorem summarizeAll_append_congr {test : P → m Bool} {junction : Junction}
    {bs bs' : List (Condition P)} (as : List (Condition P))
    (h : summarizeAll test junction bs = summarizeAll test junction bs')
    (hcount : leafCounts bs = leafCounts bs') :
    summarizeAll test junction (as ++ bs) = summarizeAll test junction (as ++ bs') := by
  rw [summarizeAll_append, summarizeAll_append, h, hcount]

/-- A composite of the kind of its parent is evaluated as its children in its place are. -/
theorem summarizeAll_splice (test : P → m Bool) (junction : Junction)
    (inner after : List (Condition P)) :
    summarizeAll test junction (composite junction inner :: after) =
      summarizeAll test junction (inner ++ after) := by
  rw [summarizeAll, summarizeAll_append]
  rfl

/-- A composite of one child is evaluated as the child is. -/
theorem summarize_single (test : P → m Bool) (junction : Junction) (c : Condition P) :
    (composite junction [c]).summarize test = c.summarize test := by
  rw [summarize, summarizeAll]
  refine (bind_congr fun first => ?_).trans (bind_pure (c.summarize test))
  by_cases h : first.result = junction.stopsOn
  · rw [if_pos h, leafCounts, Summary.skip_zero]
  · have hresult : (!junction.stopsOn) = first.result := (Bool.eq_not_of_ne h).symm
    rw [if_neg h, summarizeAll, pure_bind, hresult, Summary.append_untested]

end Lawful

/-! ## 2. Flattening -/

/-- One composite of the tree is left out: it stands in a composite of its kind and gives its place
    to its children, or it has one child and gives its place to this. -/
inductive Flattens : Condition P → Condition P → Prop
  | splice (junction : Junction) (before inner after : List (Condition P)) :
      Flattens (composite junction (before ++ composite junction inner :: after))
        (composite junction (before ++ (inner ++ after)))
  | single (junction : Junction) (c : Condition P) : Flattens (composite junction [c]) c
  | inside (junction : Junction) (before after : List (Condition P)) {c d : Condition P}
      (h : Flattens c d) : Flattens (composite junction (before ++ c :: after))
        (composite junction (before ++ d :: after))

theorem leafCount_eq_of_flattens {c d : Condition P} (h : Flattens c d) :
    c.leafCount = d.leafCount := by
  induction h with
  | splice junction before inner after =>
    rw [leafCount, leafCount, leafCounts_append, leafCounts_append, leafCounts_append]
    rfl
  | single junction c => rfl
  | inside junction before after h ih =>
    rw [leafCount, leafCount, leafCounts_append, leafCounts_append, leafCounts, leafCounts, ih]

variable [LawfulMonad m]

/-- Leaving out one composite changes nothing in the summary. The induction is on the place of the
    composite in the tree. -/
theorem summarize_eq_of_flattens (test : P → m Bool) {c d : Condition P} (h : Flattens c d) :
    c.summarize test = d.summarize test := by
  induction h with
  | splice junction before inner after =>
    refine summarizeAll_append_congr before (summarizeAll_splice test junction inner after) ?_
    rw [leafCounts_append]
    rfl
  | single junction c => exact summarize_single test junction c
  | inside junction before after h ih =>
    have hcount := leafCount_eq_of_flattens h
    refine summarizeAll_append_congr before ?_ ?_
    · rw [summarizeAll, summarizeAll, ih]
    · rw [leafCounts, leafCounts, hcount]

/-- Neither does leaving out any number of them. -/
theorem summarize_eq_of_reflTransGen (test : P → m Bool) {c d : Condition P}
    (h : Relation.ReflTransGen Flattens c d) : c.summarize test = d.summarize test := by
  induction h with
  | refl => rfl
  | tail _ hstep ih => exact ih.trans (summarize_eq_of_flattens test hstep)

/-- **Flattening is sound anywhere in a tree, any number of times.** Whatever a test does, the
    evaluation stays the same with its outcome and its error, and so does the report but for the
    paths of its leaves. The calls of the evaluation stay the same, too. -/
theorem flattening_sound {c d : Condition P} (h : Relation.ReflTransGen Flattens c d) :
    (∀ {m : Type → Type} [Monad m] [LawfulMonad m] (test : P → m Bool),
      c.evaluate test = d.evaluate test ∧
        Report.summary <$> c.report test = Report.summary <$> d.report test) ∧
    ∀ {σ ε : Type} (test : P → Testing σ ε Bool) (s : σ), c.calls test s = d.calls test s := by
  have hevaluate : ∀ {m : Type → Type} [Monad m] [LawfulMonad m] (test : P → m Bool),
      c.evaluate test = d.evaluate test := by
    intro m _ _ test
    rw [← map_result_summarize, ← map_result_summarize, summarize_eq_of_reflTransGen test h]
  refine ⟨fun test => ⟨hevaluate test, ?_⟩, fun test s => ?_⟩
  · rw [report, report, map_summary_reportAt, map_summary_reportAt,
      summarize_eq_of_reflTransGen test h]
  · have hobserved := congrArg (fun x => (x.result (s, [])).2.2) (hevaluate (observed test))
    simpa only [result_evaluate_observed, List.nil_append] using hobserved

/-- Three composites that are left out, and a test that counts its calls and fails at a leaf that is
    passed over. -/
theorem flattening_sound_three_composites :
    let c : Condition Nat := allOf [anyOf [anyOf [], leaf 1], allOf [leaf 2, leaf 3], leaf 4]
    let d : Condition Nat := allOf [leaf 1, leaf 2, leaf 3, leaf 4]
    let test : Nat → Testing Nat String Bool := fun n => do
      modify (· + 1)
      if n = 4 then throw "no answer" else return n ≠ 2
    Relation.ReflTransGen Flattens c d ∧ c.evaluate test = d.evaluate test ∧
      Report.summary <$> c.report test = Report.summary <$> d.report test ∧
      c.calls test 0 = d.calls test 0 ∧
      (c.report test).result 0 = (.ok ⟨false, [⟨[0, 1], true⟩, ⟨[1, 0], false⟩], 2⟩, 2) ∧
      (d.report test).result 0 = (.ok ⟨false, [⟨[0], true⟩, ⟨[1], false⟩], 2⟩, 2) := by
  intro c d test
  have hempty : Flattens c (allOf [anyOf [leaf 1], allOf [leaf 2, leaf 3], leaf 4]) :=
    .inside .all [] _ (.splice .any [] [] [leaf 1])
  have hsingle : Flattens (allOf [anyOf [leaf 1], allOf [leaf 2, leaf 3], leaf 4])
      (allOf [leaf 1, allOf [leaf 2, leaf 3], leaf 4]) :=
    .inside .all [] _ (.single .any (leaf 1))
  have hinner : Flattens (allOf [leaf 1, allOf [leaf 2, leaf 3], leaf 4]) d :=
    .splice .all [leaf 1] [leaf 2, leaf 3] [leaf 4]
  have h : Relation.ReflTransGen Flattens c d :=
    .tail (.tail (.single hempty) hsingle) hinner
  obtain ⟨hmonads, hcalls⟩ := flattening_sound h
  obtain ⟨hevaluate, hreport⟩ := hmonads test
  exact ⟨h, hevaluate, hreport, hcalls test 0, rfl, rfl⟩

end Condition

end Verdict
