/-!
# Conditions

A condition is a tree: its leaves are predicates, its inner nodes ask for all or for any of their
children, in order.

* `Junction`: all or any;
* `Condition P`: the tree;
* `depth`, `leafCount`, `children`, `junction?`, `display`: what can be asked of one;
* `Condition.beq`: equality, node by node.
-/

namespace Verdict

/-- How a composite combines its children. -/
inductive Junction where
  /-- Every child has to hold; holds when there is none. -/
  | all
  /-- Some child has to hold; fails when there is none. -/
  | any
  deriving DecidableEq

namespace Junction

/-- The outcome of a child that settles the composite at once; it is the outcome of the composite
    then, and the other outcome if no child has it. -/
def stopsOn : Junction → Bool
  | .all => false
  | .any => true

/-- The tag under which a composite is written. -/
def tag : Junction → String
  | .all => "allOf"
  | .any => "anyOf"

end Junction

/-- A tree of predicates. -/
inductive Condition (P : Type) where
  | leaf (predicate : P)
  | composite (junction : Junction) (children : List (Condition P))

namespace Condition

variable {P : Type}

/-- All of the children. -/
abbrev allOf (children : List (Condition P)) : Condition P := composite .all children

/-- Any of the children. -/
abbrev anyOf (children : List (Condition P)) : Condition P := composite .any children

/-- The direct children; none for a leaf. -/
def children : Condition P → List (Condition P)
  | leaf _ => []
  | composite _ children => children

/-- Whether the tree is a single leaf. -/
def isLeaf : Condition P → Bool
  | leaf _ => true
  | composite _ _ => false

/-- How the root combines its children, if it is a composite. -/
def junction? : Condition P → Option Junction
  | leaf _ => none
  | composite junction _ => some junction

mutual

/-- The number of levels; a leaf and an empty composite have one. -/
def depth : Condition P → Nat
  | leaf _ => 1
  | composite _ children => 1 + maxDepth children

/-- The number of levels of the deepest of several trees. -/
def maxDepth : List (Condition P) → Nat
  | [] => 0
  | c :: rest => max c.depth (maxDepth rest)

end

mutual

/-- The number of leaves. -/
def leafCount : Condition P → Nat
  | leaf _ => 1
  | composite _ children => leafCounts children

/-- The number of leaves of several trees. -/
def leafCounts : List (Condition P) → Nat
  | [] => 0
  | c :: rest => c.leafCount + leafCounts rest

end

mutual

/-- The number of nodes, leaves and composites alike. -/
def nodeCount : Condition P → Nat
  | leaf _ => 1
  | composite _ children => 1 + nodeCounts children

/-- The number of nodes of several trees. -/
def nodeCounts : List (Condition P) → Nat
  | [] => 0
  | c :: rest => c.nodeCount + nodeCounts rest

end

mutual

/-- A tree in one line: the tag of a composite, and its children in parentheses. -/
def display (leafText : P → String) : Condition P → String
  | leaf predicate => leafText predicate
  | composite junction children =>
    let inner := String.intercalate ", " (displays leafText children)
    s!"{junction.tag}({inner})"

/-- Several trees, each in one line. -/
def displays (leafText : P → String) : List (Condition P) → List String
  | [] => []
  | c :: rest => c.display leafText :: displays leafText rest

end

/-! ## Equality -/

section Equality

variable [BEq P]

mutual

/-- Equality of trees, with the equality of leaves that the leaf type has. -/
def beq : Condition P → Condition P → Bool
  | leaf p, leaf q => p == q
  | composite j as, composite k bs => j == k && beqs as bs
  | _, _ => false

/-- Equality of lists of trees. -/
def beqs : List (Condition P) → List (Condition P) → Bool
  | [], [] => true
  | a :: as, b :: bs => a.beq b && beqs as bs
  | _, _ => false

end

instance : BEq (Condition P) := ⟨beq⟩

end Equality

end Condition

end Verdict
