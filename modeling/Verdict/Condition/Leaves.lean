import Verdict.Condition.Basic

/-!
# The leaves of a condition, one at a time

* `Leaves P`: an iterator -- the trees that it still has to visit, the next one first;
* `Leaves.next`: the next leaf and the iterator behind it;
* `Condition.leaves`: the iterator at the start of a tree, and `Leaves.toList` what it yields.
-/

namespace Verdict

/-- An iterator over leaves: the trees still to be visited, the next one first. -/
structure Leaves (P : Type) where
  stack : List (Condition P)

/-- The leaves of a tree, from its start. -/
def Condition.leaves {P : Type} (c : Condition P) : Leaves P := ⟨[c]⟩

namespace Leaves

variable {P : Type}

theorem nodeCounts_append (a b : List (Condition P)) :
    Condition.nodeCounts (a ++ b) = Condition.nodeCounts a + Condition.nodeCounts b := by
  induction a with
  | nil => simp [Condition.nodeCounts]
  | cons c rest ih => simp [Condition.nodeCounts, ih, Nat.add_assoc]

/-- The next leaf of the trees on a stack, and the stack behind it. A composite at the top gives
    way to its children. -/
def pop : List (Condition P) → Option (P × List (Condition P))
  | [] => none
  | .leaf p :: rest => some (p, rest)
  | .composite _ children :: rest => pop (children ++ rest)
termination_by stack => Condition.nodeCounts stack
decreasing_by simp [Condition.nodeCounts, Condition.nodeCount, nodeCounts_append]

/-- The next leaf, and the iterator behind it; none at the end. -/
def next (it : Leaves P) : Option (P × Leaves P) :=
  (pop it.stack).map fun (p, stack) => (p, ⟨stack⟩)

theorem nodeCounts_pop_lt {stack rest : List (Condition P)} {p : P}
    (h : pop stack = some (p, rest)) :
    Condition.nodeCounts rest < Condition.nodeCounts stack := by
  fun_induction pop stack with
  | case1 => simp at h
  | case2 q rest' =>
    simp only [Option.some.injEq, Prod.mk.injEq] at h
    obtain ⟨_, rfl⟩ := h
    simp [Condition.nodeCounts, Condition.nodeCount]
  | case3 j children rest' ih =>
    have := ih h
    simp only [nodeCounts_append, Condition.nodeCounts, Condition.nodeCount] at this ⊢
    omega

/-- Every leaf that the iterator still yields, in order. -/
def toList (it : Leaves P) : List P :=
  match _popped : pop it.stack with
  | none => []
  | some (p, stack) => p :: toList ⟨stack⟩
termination_by Condition.nodeCounts it.stack
decreasing_by exact nodeCounts_pop_lt _popped

end Leaves

end Verdict
