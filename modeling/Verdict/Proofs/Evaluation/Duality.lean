import Verdict.Gate
import Verdict.Proofs.Evaluation.Report

/-!
# Duality

All and any change places where every answer is negated.

* `Condition.dual`, `negated`: the tree with its junctions changed, and a test with its answers
  negated; both twice are as before (`dual_dual`, `negated_negated`);
* **`reportAt_dual`**: the report of the dual tree has the outcomes negated, and nothing else is
  changed;
* `evaluate_dual`, `calls_dual`: so it is with the evaluation and with its calls;
* `Gate.dual`, `passes_dual`: so one kind of gate is the other kind with the dual condition;
* **`duality`**: all of it together.
-/

namespace Verdict

open Writing

variable {P σ ε : Type} {m : Type → Type} [Monad m]

/-! ## 1. Duals -/

namespace Junction

/-- The other junction. -/
def dual : Junction → Junction
  | .all => .any
  | .any => .all

@[simp] theorem dual_dual (junction : Junction) : junction.dual.dual = junction := by
  cases junction <;> rfl

@[simp] theorem stopsOn_dual (junction : Junction) : junction.dual.stopsOn = !junction.stopsOn := by
  cases junction <;> rfl

/-- The negated outcome settles the dual composite where the outcome settles the composite. -/
theorem eq_stopsOn_dual_iff {junction : Junction} {b : Bool} :
    (!b) = junction.dual.stopsOn ↔ b = junction.stopsOn := by
  rw [stopsOn_dual]
  exact Bool.not_inj_iff

end Junction

/-- A test whose answers are negated; it fails as before. -/
def negated (test : P → m Bool) (p : P) : m Bool := not <$> test p

theorem negated_negated [LawfulMonad m] (test : P → m Bool) : negated (negated test) = test := by
  funext p
  simp [negated]

namespace Condition

mutual

/-- The tree in which all and any have changed places. -/
def dual : Condition P → Condition P
  | leaf p => leaf p
  | composite junction children => composite junction.dual (dualAll children)

/-- Several trees in which all and any have changed places. -/
def dualAll : List (Condition P) → List (Condition P)
  | [] => []
  | c :: rest => c.dual :: dualAll rest

end

mutual

theorem dual_dual (c : Condition P) : c.dual.dual = c := by
  match c with
  | leaf p => rfl
  | composite junction children =>
    rw [dual, dual, Junction.dual_dual, dualAll_dualAll children]

theorem dualAll_dualAll (cs : List (Condition P)) : dualAll (dualAll cs) = cs := by
  match cs with
  | [] => rfl
  | c :: rest => rw [dualAll, dualAll, dual_dual c, dualAll_dualAll rest]

end

mutual

theorem leafCount_dual (c : Condition P) : c.dual.leafCount = c.leafCount := by
  match c with
  | leaf p => rfl
  | composite junction children => exact leafCounts_dualAll children

theorem leafCounts_dualAll (cs : List (Condition P)) : leafCounts (dualAll cs) = leafCounts cs := by
  match cs with
  | [] => rfl
  | c :: rest => rw [dualAll, leafCounts, leafCounts, leafCount_dual c, leafCounts_dualAll rest]

end

end Condition

/-! ## 2. Reports -/

/-- The leaf outcome with its answer negated. -/
def LeafOutcome.negate (o : LeafOutcome) : LeafOutcome := { o with result := !o.result }

/-- The report with all of its outcomes negated. -/
def Report.negate (r : Report) : Report where
  result := !r.result
  tested := r.tested.map LeafOutcome.negate
  skipped := r.skipped

@[simp] theorem Report.result_negate (r : Report) : r.negate.result = !r.result := rfl

namespace Condition

section Lawful

variable [LawfulMonad m]

mutual

/-- **The report of the dual tree has its outcomes negated**; paths and skipped leaves are as they
    were. -/
theorem reportAt_dual (test : P → m Bool) (path : List Nat) (c : Condition P) :
    c.dual.reportAt (negated test) path = Report.negate <$> c.reportAt test path := by
  match c with
  | leaf p =>
    rw [dual, reportAt, reportAt, negated, bind_map_left, map_bind]
    simp only [map_pure]
    rfl
  | composite junction children => exact reportAll_dualAll test path junction 0 children

theorem reportAll_dualAll (test : P → m Bool) (path : List Nat) (junction : Junction)
    (index : Nat) (cs : List (Condition P)) :
    reportAll (negated test) path junction.dual index (dualAll cs) =
      Report.negate <$> reportAll test path junction index cs := by
  match cs with
  | [] =>
    rw [dualAll, reportAll, reportAll, map_pure, Junction.stopsOn_dual]
    rfl
  | c :: rest =>
    rw [dualAll, reportAll, reportAll, reportAt_dual test (path ++ [index]) c, bind_map_left,
      map_bind]
    refine bind_congr fun first => ?_
    rw [Report.result_negate]
    by_cases h : first.result = junction.stopsOn
    · rw [if_pos h, if_pos (Junction.eq_stopsOn_dual_iff.mpr h), map_pure, leafCounts_dualAll]
      rfl
    · rw [if_neg h, if_neg (mt Junction.eq_stopsOn_dual_iff.mp h),
        reportAll_dualAll test path junction (index + 1) rest, bind_map_left, map_bind]
      refine bind_congr fun others => ?_
      have happend : Report.negate
          ⟨others.result, first.tested ++ others.tested, first.skipped + others.skipped⟩ =
            ⟨others.negate.result, first.negate.tested ++ others.negate.tested,
              first.negate.skipped + others.negate.skipped⟩ := by
        simp [Report.negate]
      rw [map_pure, happend]

end

/-- The dual tree has the other outcome. -/
theorem evaluate_dual (test : P → m Bool) (c : Condition P) :
    c.dual.evaluate (negated test) = not <$> c.evaluate test := by
  rw [← map_result_reportAt _ [], ← map_result_reportAt _ [], reportAt_dual, Functor.map_map,
    Functor.map_map]
  rfl

end Lawful

/-! ## 3. Calls and gates -/

theorem result_negated (test : P → Testing σ ε Bool) (p : P) (s : σ) :
    (negated test p).result s = (((test p).result s).1.map not, ((test p).result s).2) :=
  result_map not (test p) s

mutual

/-- The evaluation of the dual tree makes the same calls, with the other answers. -/
theorem calls_dual (test : P → Testing σ ε Bool) (c : Condition P) (s : σ) :
    c.dual.calls (negated test) s = (c.calls test s).map fun call => (call.1, call.2.map not) := by
  match c with
  | leaf p =>
    rw [dual, calls, calls, result_negated]
    rfl
  | composite junction children => exact callsAll_dualAll test junction children s

theorem callsAll_dualAll (test : P → Testing σ ε Bool) (junction : Junction)
    (cs : List (Condition P)) (s : σ) :
    callsAll (negated test) junction.dual (dualAll cs) s =
      (callsAll test junction cs s).map fun call => (call.1, call.2.map not) := by
  match cs with
  | [] => rfl
  | c :: rest =>
    rw [dualAll, callsAll, callsAll, calls_dual test c s, evaluate_dual, result_map,
      List.map_append]
    rcases (c.evaluate test).result s with ⟨e | b, s'⟩
    · rfl
    · have hnegated : (Except.ok b : Except ε Bool).map not = .ok (!b) := rfl
      rw [hnegated]
      dsimp only
      by_cases h : b = junction.stopsOn
      · rw [if_pos h, if_pos (Junction.eq_stopsOn_dual_iff.mpr h)]
        rfl
      · rw [if_neg h, if_neg (mt Junction.eq_stopsOn_dual_iff.mp h),
          callsAll_dualAll test junction rest s']

end

end Condition

namespace GateKind

/-- The other kind of gate. -/
def dual : GateKind → GateKind
  | whenTrue => whenFalse
  | whenFalse => whenTrue

end GateKind

namespace Gate

/-- The other kind of gate with the dual condition. -/
def dual (g : Gate P) : Gate P := ⟨g.kind.dual, g.condition.dual⟩

/-- The dual gate passes where the gate does. -/
theorem passes_dual [LawfulMonad m] (test : P → m Bool) (g : Gate P) :
    g.dual.passes (negated test) = g.passes test := by
  rw [passes, passes, dual, Condition.evaluate_dual, bind_map_left]
  refine bind_congr fun holds => ?_
  cases g.kind <;> simp [GateKind.dual]

end Gate

/-- **Duality.** Whatever a test does, the dual tree with the negated test fails as the tree does,
    and else has the other outcome; its report has all outcomes negated, at the same paths and with
    as many leaves skipped; and a gate that passes when its condition does not hold passes as one
    does that asks for the dual condition. The calls are those of the same leaves in the same
    order, with the same errors and the other answers. -/
theorem Condition.duality (c : Condition P) :
    (∀ {m : Type → Type} [Monad m] [LawfulMonad m] (test : P → m Bool),
      c.dual.evaluate (negated test) = not <$> c.evaluate test ∧
      c.dual.report (negated test) = Report.negate <$> c.report test ∧
      Gate.passes test ⟨.whenFalse, c⟩ = Gate.passes (negated test) ⟨.whenTrue, c.dual⟩) ∧
    ∀ {σ ε : Type} (test : P → Testing σ ε Bool) (s : σ),
      c.dual.calls (negated test) s =
        (c.calls test s).map fun call => (call.1, call.2.map not) :=
  ⟨fun test => ⟨evaluate_dual test c, reportAt_dual test [] c,
    (Gate.passes_dual test ⟨.whenFalse, c⟩).symm⟩, fun test s => calls_dual test c s⟩

/-- A tree over two levels, with a test that counts its calls and fails at a leaf that is passed
    over in the tree, and tested in the one around it. -/
theorem Condition.duality_two_levels :
    let c : Condition Nat := anyOf [allOf [leaf 1, leaf 2], leaf 3, leaf 4]
    let around : Condition Nat := allOf [c, leaf 4]
    let test : Nat → Testing Nat String Bool := fun n => do
      modify (· + 1)
      if n = 4 then throw "no answer" else return n ≠ 2
    let r : Report := ⟨true, [⟨[0, 0], true⟩, ⟨[0, 1], false⟩, ⟨[1], true⟩], 1⟩
    (c.report test).result 0 = (.ok r, 3) ∧
      (c.dual.report (negated test)).result 0 = (.ok r.negate, 3) ∧
      (around.dual.evaluate (negated test)).result 0 = (.error "no answer", 4) ∧
      Gate.passes test ⟨.whenFalse, c⟩ = Gate.passes (negated test) ⟨.whenTrue, c.dual⟩ ∧
      c.dual.calls (negated test) 0 = [(1, .ok false), (2, .ok true), (3, .ok false)] := by
  intro c around test r
  have hrun : (c.report test).result 0 = (.ok r, 3) := rfl
  have hfails : (around.evaluate test).result 0 = (.error "no answer", 4) := rfl
  obtain ⟨hmonads, hcalls⟩ := duality c
  obtain ⟨-, hreport, hpasses⟩ := hmonads test
  obtain ⟨haround, -, -⟩ := (duality around).1 test
  refine ⟨hrun, ?_, ?_, hpasses, (hcalls test 0).trans rfl⟩
  · rw [hreport, result_map, hrun]
    rfl
  · rw [haround, result_map, hfails]
    rfl

end Verdict
