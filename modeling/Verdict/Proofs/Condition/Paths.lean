import Verdict.Condition.Basic

/-!
# Where the leaves of a condition stand

* `Condition.at?`: the subtree at the end of a path of child indices;
* `Condition.leafList`: the leaves from left to right, as many as the tree counts
  (`length_leafList`);
* `Condition.map`: a tree with its leaves carried into another type;
* `Condition.labelled`: a tree in which every leaf has its path beside it;
* **`mem_leafList_labelled`**, `pairwise_leafList_labelled`: the labels are the paths to the leaves,
  and stand in lexicographic order;
* `mem_leafList`: so the leaves are what stands at the ends of paths.
-/

namespace Verdict.Condition

variable {P Q : Type}

/-- The subtree at the end of a path of child indices. -/
def at? (c : Condition P) : List Nat → Option (Condition P)
  | [] => some c
  | i :: path => c.children[i]?.bind fun child => child.at? path

mutual

/-- The leaves of a tree, from left to right. -/
def leafList : Condition P → List P
  | leaf p => [p]
  | composite _ children => leafLists children

/-- The leaves of several trees, in order. -/
def leafLists : List (Condition P) → List P
  | [] => []
  | c :: rest => c.leafList ++ leafLists rest

end

mutual

/-- A tree with its leaves carried into another type. -/
def map (f : P → Q) : Condition P → Condition Q
  | leaf p => leaf (f p)
  | composite junction children => composite junction (mapAll f children)

/-- Several trees with their leaves carried into another type. -/
def mapAll (f : P → Q) : List (Condition P) → List (Condition Q)
  | [] => []
  | c :: rest => c.map f :: mapAll f rest

end

/-- Puts one more index in front of the path of a leaf. -/
def under (index : Nat) (leaf : List Nat × P) : List Nat × P := (index :: leaf.1, leaf.2)

mutual

/-- A tree in which every leaf has its path beside it. -/
def labelled : Condition P → Condition (List Nat × P)
  | leaf p => leaf ([], p)
  | composite junction children => composite junction (labelledFrom 0 children)

/-- The children of a composite from an index on, in which every leaf has its path beside it. -/
def labelledFrom (index : Nat) : List (Condition P) → List (Condition (List Nat × P))
  | [] => []
  | c :: rest => c.labelled.map (under index) :: labelledFrom (index + 1) rest

end

theorem leafLists_append (as bs : List (Condition P)) :
    leafLists (as ++ bs) = leafLists as ++ leafLists bs := by
  induction as with
  | nil => rfl
  | cons c rest ih => rw [List.cons_append, leafLists, leafLists, ih, List.append_assoc]

theorem leafLists_singleton (c : Condition P) : leafLists [c] = c.leafList := List.append_nil _

mutual

theorem length_leafList (c : Condition P) : c.leafList.length = c.leafCount := by
  match c with
  | leaf p => rfl
  | composite junction children => exact length_leafLists children

theorem length_leafLists (cs : List (Condition P)) : (leafLists cs).length = leafCounts cs := by
  match cs with
  | [] => rfl
  | c :: rest =>
    rw [leafLists, leafCounts, List.length_append, length_leafList c, length_leafLists rest]

end

/-! ## 1. Leaves that are carried into another type -/

mutual

theorem map_map {R : Type} (f : P → Q) (g : Q → R) (c : Condition P) :
    (c.map f).map g = c.map (g ∘ f) := by
  match c with
  | leaf p => rfl
  | composite junction children =>
    rw [map, map, map, mapAll_mapAll f g children]

theorem mapAll_mapAll {R : Type} (f : P → Q) (g : Q → R) (cs : List (Condition P)) :
    mapAll g (mapAll f cs) = mapAll (g ∘ f) cs := by
  match cs with
  | [] => rfl
  | c :: rest => rw [mapAll, mapAll, mapAll, map_map f g c, mapAll_mapAll f g rest]

end

mutual

theorem leafList_map (f : P → Q) (c : Condition P) : (c.map f).leafList = c.leafList.map f := by
  match c with
  | leaf p => rfl
  | composite junction children => rw [map, leafList, leafList, leafLists_mapAll f children]

theorem leafLists_mapAll (f : P → Q) (cs : List (Condition P)) :
    leafLists (mapAll f cs) = (leafLists cs).map f := by
  match cs with
  | [] => rfl
  | c :: rest =>
    rw [mapAll, leafLists, leafLists, leafList_map f c, leafLists_mapAll f rest, List.map_append]

end

/-! ## 2. Labels -/

mutual

/-- Without its labels a tree is what it was. -/
theorem map_snd_labelled (c : Condition P) : c.labelled.map Prod.snd = c := by
  match c with
  | leaf p => rfl
  | composite junction children => rw [labelled, map, mapAll_snd_labelledFrom 0 children]

theorem mapAll_snd_labelledFrom (index : Nat) (cs : List (Condition P)) :
    mapAll Prod.snd (labelledFrom index cs) = cs := by
  match cs with
  | [] => rfl
  | c :: rest =>
    have hunder : Prod.snd ∘ under index = (Prod.snd : List Nat × P → P) := rfl
    rw [labelledFrom, mapAll, map_map, hunder, map_snd_labelled c,
      mapAll_snd_labelledFrom (index + 1) rest]

end

mutual

/-- **The labelled leaves are the leaves at the ends of their paths.** -/
theorem mem_leafList_labelled {path : List Nat} {p : P} {c : Condition P} :
    (path, p) ∈ c.labelled.leafList ↔ c.at? path = some (leaf p) := by
  match c with
  | leaf q =>
    cases path with
    | nil => simp [labelled, leafList, at?, eq_comm]
    | cons i path => simp [labelled, leafList, at?, children]
  | composite junction children =>
    rw [labelled, leafList, mem_leafLists_labelledFrom]
    cases path with
    | nil => simp [at?]
    | cons i path =>
      simp only [Nat.zero_add, List.cons.injEq, at?, Condition.children, Option.bind_eq_some_iff]
      constructor
      · intro h
        obtain ⟨_, _, child, ⟨rfl, rfl⟩, hchild, hleaf⟩ := h
        exact ⟨child, hchild, hleaf⟩
      · intro h
        obtain ⟨child, hchild, hleaf⟩ := h
        exact ⟨i, path, child, ⟨rfl, rfl⟩, hchild, hleaf⟩

theorem mem_leafLists_labelledFrom {path : List Nat} {p : P} {index : Nat}
    {cs : List (Condition P)} : (path, p) ∈ leafLists (labelledFrom index cs) ↔
      ∃ i rest child, path = (index + i) :: rest ∧ cs[i]? = some child ∧
        child.at? rest = some (leaf p) := by
  match cs with
  | [] => simp [labelledFrom, leafLists]
  | c :: others =>
    rw [labelledFrom, leafLists, leafList_map, List.mem_append, List.mem_map,
      @mem_leafLists_labelledFrom path p (index + 1) others]
    constructor
    · intro h
      rcases h with ⟨⟨rest, q⟩, hq, hunder⟩ | ⟨i, rest, child, rfl, hchild, hleaf⟩
      · obtain ⟨rfl, rfl⟩ := Prod.mk.inj hunder
        exact ⟨0, rest, c, rfl, rfl, mem_leafList_labelled.mp hq⟩
      · exact ⟨i + 1, rest, child, by rw [Nat.add_right_comm, Nat.add_assoc], hchild, hleaf⟩
    · intro h
      obtain ⟨i, rest, child, rfl, hchild, hleaf⟩ := h
      cases i with
      | zero =>
        obtain rfl := Option.some.inj hchild
        exact .inl ⟨(rest, p), mem_leafList_labelled.mpr hleaf, rfl⟩
      | succ i =>
        exact .inr ⟨i, rest, child, by rw [Nat.add_right_comm, Nat.add_assoc], hchild, hleaf⟩

end

/-- The leaves of a tree stand at the ends of its paths. -/
theorem mem_leafList {p : P} {c : Condition P} :
    p ∈ c.leafList ↔ ∃ path, c.at? path = some (leaf p) := by
  conv => lhs; rw [← map_snd_labelled c, leafList_map, List.mem_map]
  constructor
  · rintro ⟨⟨path, q⟩, hmem, rfl⟩
    exact ⟨path, mem_leafList_labelled.mp hmem⟩
  · rintro ⟨path, hat⟩
    exact ⟨(path, p), mem_leafList_labelled.mpr hat, rfl⟩

theorem mem_leafLists {p : P} {cs : List (Condition P)} :
    p ∈ leafLists cs ↔ ∃ c ∈ cs, p ∈ c.leafList := by
  induction cs with
  | nil => simp [leafLists]
  | cons c rest ih => simp [leafLists, ih]

/-- Below a composite a path begins with the index of a child. -/
theorem at?_composite_eq_some_iff {junction : Junction} {children : List (Condition P)} {i : Nat}
    {path : List Nat} {node : Condition P} :
    (composite junction children).at? (i :: path) = some node ↔
      ∃ child, children[i]? = some child ∧ child.at? path = some node :=
  Option.bind_eq_some_iff

mutual

/-- The paths to the leaves, from left to right, increase in lexicographic order. -/
theorem pairwise_leafList_labelled (c : Condition P) :
    (c.labelled.leafList.map Prod.fst).Pairwise (· < ·) := by
  match c with
  | leaf p => exact List.pairwise_singleton _ _
  | composite junction children => exact pairwise_leafLists_labelledFrom 0 children

theorem pairwise_leafLists_labelledFrom (index : Nat) (cs : List (Condition P)) :
    ((leafLists (labelledFrom index cs)).map Prod.fst).Pairwise (· < ·) := by
  match cs with
  | [] => exact List.Pairwise.nil
  | c :: rest =>
    rw [labelledFrom, leafLists, leafList_map, List.map_append, List.map_map]
    refine List.pairwise_append.mpr ⟨?_, pairwise_leafLists_labelledFrom (index + 1) rest, ?_⟩
    · have hunder : Prod.fst ∘ under index = (List.cons index ∘ Prod.fst : List Nat × P → _) := rfl
      rw [hunder, ← List.map_map, List.pairwise_map]
      refine (pairwise_leafList_labelled c).imp fun {a b} h => ?_
      exact List.cons_lt_cons_iff.mpr (.inr ⟨rfl, h⟩)
    · intro a ha b hb
      obtain ⟨leaf, -, rfl⟩ := List.mem_map.mp ha
      obtain ⟨⟨path, p⟩, hlater, rfl⟩ := List.mem_map.mp hb
      obtain ⟨i, rest', child, rfl, -, -⟩ := mem_leafLists_labelledFrom.mp hlater
      exact List.cons_lt_cons_iff.mpr (.inl (by omega))

end

end Verdict.Condition
