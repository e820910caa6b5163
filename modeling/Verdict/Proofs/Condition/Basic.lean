import Verdict.Condition.Basic

/-!
# Trees of predicates

* `eq_of_beq`, `beq_self`: trees are compared node by node, so where equal leaves are the same,
  equal trees are;
* `depth_pos`, `maxDepth_le_iff`: the levels of a tree, and of several trees.
-/

namespace Verdict.Condition

variable {P : Type} [BEq P]

mutual

theorem eq_of_beq [LawfulBEq P] {a b : Condition P} (h : a.beq b = true) : a = b := by
  match a, b with
  | leaf p, leaf q =>
    have hleaf : (p == q) = true := h
    rw [LawfulBEq.eq_of_beq hleaf]
  | composite j as, composite k bs =>
    obtain ⟨hjunction, hchildren⟩ := Bool.and_eq_true_iff.mp h
    rw [LawfulBEq.eq_of_beq hjunction, eq_of_beqs hchildren]
  | leaf _, composite _ _ => cases h
  | composite _ _, leaf _ => cases h

theorem eq_of_beqs [LawfulBEq P] {as bs : List (Condition P)} (h : beqs as bs = true) :
    as = bs := by
  match as, bs with
  | [], [] => rfl
  | a :: as, b :: bs =>
    obtain ⟨hfirst, hothers⟩ := Bool.and_eq_true_iff.mp h
    rw [eq_of_beq hfirst, eq_of_beqs hothers]
  | [], _ :: _ => cases h
  | _ :: _, [] => cases h

end

mutual

theorem beq_self [LawfulBEq P] (a : Condition P) : a.beq a = true := by
  match a with
  | leaf p => exact BEq.rfl
  | composite j as => exact Bool.and_eq_true_iff.mpr ⟨BEq.rfl, beqs_self as⟩

theorem beqs_self [LawfulBEq P] (as : List (Condition P)) : beqs as as = true := by
  match as with
  | [] => rfl
  | a :: as => exact Bool.and_eq_true_iff.mpr ⟨beq_self a, beqs_self as⟩

end

/-- Where equal leaves are the same, equal trees are. -/
instance [LawfulBEq P] : LawfulBEq (Condition P) where
  eq_of_beq := eq_of_beq
  rfl := beq_self _

section Depth

omit [BEq P]

theorem depth_pos (c : Condition P) : 0 < c.depth := by
  cases c with
  | leaf p => exact Nat.one_pos
  | composite junction children => exact Nat.lt_of_lt_of_le Nat.one_pos (Nat.le_add_right 1 _)

/-- The deepest of several trees bounds the levels of each. -/
theorem maxDepth_le_iff {levels : Nat} {cs : List (Condition P)} :
    maxDepth cs ≤ levels ↔ ∀ c ∈ cs, c.depth ≤ levels := by
  induction cs with
  | nil => simp [maxDepth]
  | cons c rest ih => rw [maxDepth, Nat.max_le, ih, List.forall_mem_cons]

/-- A composite has one level more than the deepest of its children. -/
theorem depth_composite_le_iff {levels : Nat} {junction : Junction}
    {children : List (Condition P)} :
    (composite junction children).depth ≤ levels + 1 ↔ ∀ c ∈ children, c.depth ≤ levels := by
  rw [depth, Nat.add_comm, Nat.add_le_add_iff_right, maxDepth_le_iff]

end Depth

end Verdict.Condition
