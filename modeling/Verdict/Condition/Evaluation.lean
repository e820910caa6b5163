import Verdict.Condition.Basic

/-!
# Evaluating a condition

Leaves are tested from left to right, and only until the outcome is settled. A test runs in a
monad, which stands for all that a test may do: fail, read a context, write a log.

* `Condition.evaluate`: the outcome alone;
* `Condition.report`: the outcome with a record (`Report`) of the leaves that were tested, where
  they stand and what they answered, and of how many were passed over;
* `Report.display`: the record in one line.
-/

namespace Verdict

/-- The answer of one leaf; `path` leads to it through the indices of children, from the root. -/
structure LeafOutcome where
  path : List Nat
  result : Bool
  deriving DecidableEq

/-- The record of an evaluation: its outcome, the leaves tested in order, and the number of leaves
    passed over. -/
structure Report where
  result : Bool
  tested : List LeafOutcome
  skipped : Nat
  deriving DecidableEq

/-- A leaf outcome in one line. -/
def LeafOutcome.display (o : LeafOutcome) : String :=
  let path := String.intercalate "/" (o.path.map toString)
  s!"/{path} = {o.result}"

/-- A report in one line. -/
def Report.display (r : Report) : String :=
  let tested := String.intercalate ", " (r.tested.map LeafOutcome.display)
  s!"result: {r.result}, tested: [{tested}], skipped: {r.skipped}"

namespace Condition

variable {P : Type} {m : Type → Type} [Monad m]

mutual

/-- The outcome of a tree. -/
def evaluate (test : P → m Bool) : Condition P → m Bool
  | leaf p => test p
  | composite junction children => evaluateAll test junction children

/-- The outcome of a composite with these children: the first child with the outcome that the
    junction stops on settles it. -/
def evaluateAll (test : P → m Bool) (junction : Junction) : List (Condition P) → m Bool
  | [] => pure !junction.stopsOn
  | c :: rest => do
    if (← c.evaluate test) = junction.stopsOn then return junction.stopsOn
    else evaluateAll test junction rest

end

mutual

/-- The report of a subtree that stands at `path`. -/
def reportAt (test : P → m Bool) (path : List Nat) : Condition P → m Report
  | leaf p => do
    let result ← test p
    return ⟨result, [⟨path, result⟩], 0⟩
  | composite junction children => reportAll test path junction 0 children

/-- The report of a composite at `path`, from the child with this index on. The leaves of the
    children behind the one that settles the outcome are passed over. -/
def reportAll (test : P → m Bool) (path : List Nat) (junction : Junction) (index : Nat) :
    List (Condition P) → m Report
  | [] => pure ⟨!junction.stopsOn, [], 0⟩
  | c :: rest => do
    let first ← c.reportAt test (path ++ [index])
    if first.result = junction.stopsOn then
      return { first with skipped := first.skipped + leafCounts rest }
    else
      let others ← reportAll test path junction (index + 1) rest
      return ⟨others.result, first.tested ++ others.tested, first.skipped + others.skipped⟩

end

/-- The outcome of a tree with the record of its evaluation. -/
def report (test : P → m Bool) (c : Condition P) : m Report := c.reportAt test []

end Condition

end Verdict
