import Verdict.Unicode.CaseFolding

/-!
# Classes of characters

* `CharClass`: a set of code points, built from tables of ranges by set operations and by closing
  under case variants;
* `CharClass.contains`: membership;
* one equation per operation, so that nobody needs to unfold `contains`.
-/

namespace Verdict.Unicode

/-- A set of code points. -/
inductive CharClass where
  /-- The code points of a sorted table of ranges. -/
  | ranges (table : List (Nat × Nat))
  | union (a b : CharClass)
  | inter (a b : CharClass)
  /-- The code points in exactly one of two classes. -/
  | symmDiff (a b : CharClass)
  | compl (a : CharClass)
  /-- The code points with a case variant in a class. -/
  | caseClosure (a : CharClass)
  /-- The code points that are in a class themselves, or as the same ASCII letter in the other
      case. -/
  | asciiCaseClosure (a : CharClass)

/-- An ASCII letter in the other case; every other code point as it is. -/
def swapAsciiCase (n : Nat) : Nat :=
  if 0x41 ≤ n ∧ n ≤ 0x5A then n + 0x20 else if 0x61 ≤ n ∧ n ≤ 0x7A then n - 0x20 else n

namespace CharClass

/-- Whether the code point `n` is in the class. -/
def contains : CharClass → Nat → Bool
  | ranges table, n => inRanges n table
  | union a b, n => a.contains n || b.contains n
  | inter a b, n => a.contains n && b.contains n
  | symmDiff a b, n => a.contains n != b.contains n
  | compl a, n => !a.contains n
  | caseClosure a, n => (caseVariants n).any a.contains
  | asciiCaseClosure a, n => a.contains n || a.contains (swapAsciiCase n)

/-- The class without code points. -/
def empty : CharClass := ranges []

/-- The class of all code points. -/
def all : CharClass := ranges [(0, 0x10FFFF)]

/-- The class of one code point. -/
def single (n : Nat) : CharClass := ranges [(n, n)]

/-- The code points from `low` to `high`. -/
def range (low high : Nat) : CharClass := ranges [(low, high)]

/-- The class of a table in packed form. -/
def packed (rows : List Nat) : CharClass := ranges (unpackRows rows)

/-- The code points of any of the classes. -/
def unions (classes : List CharClass) : CharClass := classes.foldr union empty

/-- The code points of `a` that are not in `b`. -/
def diff (a b : CharClass) : CharClass := inter a (compl b)

/-! ## Membership, operation by operation -/

@[simp] theorem contains_empty (n : Nat) : empty.contains n = false := rfl

@[simp] theorem contains_range (low high n : Nat) :
    (range low high).contains n = decide (low ≤ n ∧ n ≤ high) := by
  simp only [range, contains, inRanges]
  by_cases h : n < low <;> by_cases h' : n ≤ high <;> simp [h, h']
  omega

@[simp] theorem contains_single (m n : Nat) : (single m).contains n = decide (n = m) := by
  have h := contains_range m m n
  simp only [range] at h
  simp only [single, h, decide_eq_decide]
  omega

@[simp] theorem contains_union (a b : CharClass) (n : Nat) :
    (union a b).contains n = (a.contains n || b.contains n) := rfl

@[simp] theorem contains_inter (a b : CharClass) (n : Nat) :
    (inter a b).contains n = (a.contains n && b.contains n) := rfl

@[simp] theorem contains_symmDiff (a b : CharClass) (n : Nat) :
    (symmDiff a b).contains n = (a.contains n != b.contains n) := rfl

@[simp] theorem contains_compl (a : CharClass) (n : Nat) :
    (compl a).contains n = !a.contains n := rfl

@[simp] theorem contains_diff (a b : CharClass) (n : Nat) :
    (diff a b).contains n = (a.contains n && !b.contains n) := rfl

@[simp] theorem contains_unions (classes : List CharClass) (n : Nat) :
    (unions classes).contains n = classes.any (·.contains n) := by
  induction classes with
  | nil => rfl
  | cons a rest ih =>
    show (a.contains n || (unions rest).contains n) = (a.contains n || rest.any (·.contains n))
    rw [ih]

end CharClass

end Verdict.Unicode
