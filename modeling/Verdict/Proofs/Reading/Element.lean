import Verdict.Condition.Reading
import Verdict.Proofs.Consumer

/-!
# Runs of the reader that answer

What a reader has done when it answers, one function at a time. Nothing here depends on the leaf
type, on the steps of its leaves or on the source:

* `run_lift_iff`: a step of the source, inside the reader;
* `Reader.item`, `run_item_none_iff`, `run_item_some_iff`: one item of a body;
* `run_children_iff`: a body, up to and including its end;
* `element_of_unknown`, `element_of_composite`, `element_of_leaf`: what an element is, by the
  statement of its tag;
* **`run_element_succ_iff`**: an element, with the two kinds of statement that its tag can have;
* `run_read_iff`: a whole condition.
-/

namespace Verdict

open Consumer

theorem TokenReader.run_lift_iff {α : Type} {x : TokenReader DocumentError α} {s rest : TokenSource}
    {a : α} : (liftM x : TokenReader ReadError α).run s = (.ok a, rest) ↔
      x.run s = (.ok a, rest) :=
  run_mapError_eq_ok_iff

namespace Reader

variable {P : Type} {r : Reader P}

theorem run_statement_iff {tag : String} {s rest : TokenSource} {statement : Statement P} :
    (r.statement tag).run s = (.ok statement, rest) ↔
      r.registry.find? tag = some statement ∧ rest = s := by
  unfold Reader.statement
  cases r.registry.find? tag with
  | none => simp
  | some found =>
    rw [run_pure_eq_ok_iff, Option.some.injEq, eq_comm]

/-! ## 1. Bodies -/

/-- What the reader does with one token of a body: the conditions that it gives, or none at the end
    of the body. -/
def item (r : Reader P) (parent : String) (permitted : List String)
    (child : LeafElement → TokenReader ReadError (Condition P)) :
    Token → TokenReader ReadError (Option (List (Condition P)))
  | .closing => return none
  | .opening name attributes => do
    let _ ← r.statement name
    if permitted.contains name then return some [← child ⟨name, attributes⟩]
    else Consumer.fail (.misplaced name parent permitted)
  | .text content =>
    if Text.isBlank content then return some []
    else Consumer.fail
      (.document (.unexpectedToken (.text content) s!"child element or </{parent}>"))

variable {parent : String} {permitted : List String}
  {child : LeafElement → TokenReader ReadError (Condition P)}

/-- An opening tag is an item where its tag is registered and permitted. -/
theorem run_item_opening_iff {name : String} {attributes : List Attribute} {s rest : TokenSource}
    {found : Option (List (Condition P))} :
    (r.item parent permitted child (.opening name attributes)).run s = (.ok found, rest) ↔
      (∃ statement, r.registry.find? name = some statement) ∧ name ∈ permitted ∧
        ∃ c, (child ⟨name, attributes⟩).run s = (.ok c, rest) ∧ found = some [c] := by
  unfold item
  simp only [run_bind_eq_ok_iff, run_statement_iff]
  by_cases h : name ∈ permitted
  · simp only [List.contains_iff_mem.mpr h, if_true, run_bind_eq_ok_iff, run_pure_eq_ok_iff]
    constructor
    · intro h'
      obtain ⟨statement, _, ⟨hfind, rfl⟩, c, _, hchild, rfl, rfl⟩ := h'
      exact ⟨⟨statement, hfind⟩, h, c, hchild, rfl⟩
    · intro h
      obtain ⟨⟨statement, hfind⟩, -, c, hchild, rfl⟩ := h
      exact ⟨statement, s, ⟨hfind, rfl⟩, c, rest, hchild, rfl, rfl⟩
  · have hcontains : permitted.contains name = false := by simp [h]
    rw [hcontains]
    simp [h]

theorem run_item_none_iff {token : Token} {s rest : TokenSource} :
    (r.item parent permitted child token).run s = (.ok none, rest) ↔
      token = .closing ∧ rest = s := by
  cases token with
  | opening name attributes =>
    rw [run_item_opening_iff]
    simp
  | text content =>
    rw [item]
    split <;> simp
  | closing =>
    rw [item]
    simp [eq_comm]

theorem run_item_some_iff {token : Token} {s rest : TokenSource} {cs : List (Condition P)} :
    (r.item parent permitted child token).run s = (.ok (some cs), rest) ↔
      (∃ content, token = .text content ∧ Text.isBlank content = true ∧ cs = [] ∧ rest = s) ∨
      ∃ name attributes c, token = .opening name attributes ∧
        (∃ statement, r.registry.find? name = some statement) ∧ name ∈ permitted ∧
        (child ⟨name, attributes⟩).run s = (.ok c, rest) ∧ cs = [c] := by
  cases token with
  | opening name attributes =>
    rw [run_item_opening_iff]
    constructor
    · intro h
      obtain ⟨hfind, hpermitted, c, hchild, hcs⟩ := h
      exact .inr ⟨name, attributes, c, rfl, hfind, hpermitted, hchild, Option.some.inj hcs⟩
    · intro h
      rcases h with ⟨content, heq, -⟩ | ⟨_, _, c, heq, hfind, hpermitted, hchild, rfl⟩
      · cases heq
      · obtain ⟨rfl, rfl⟩ := Token.opening.inj heq
        exact ⟨hfind, hpermitted, c, hchild, rfl⟩
  | text content =>
    rw [item]
    split
    · rename_i h
      rw [run_pure_eq_ok_iff]
      constructor
      · intro h'
        obtain ⟨hcs, rfl⟩ := h'
        exact .inl ⟨content, rfl, h, Option.some.inj hcs, rfl⟩
      · intro h
        rcases h with ⟨_, -, -, rfl, rfl⟩ | ⟨_, _, _, heq, -⟩
        · exact ⟨rfl, rfl⟩
        · cases heq
    · rename_i h
      simp [h]
  | closing =>
    rw [item]
    simp

/-- The reader of a body gathers its items. -/
theorem children_eq (r : Reader P) (parent : String) (permitted : List String)
    (child : LeafElement → TokenReader ReadError (Condition P)) :
    r.children parent permitted child =
      (Consumer.items (TokenReader.nextOr s!"</{parent}>") (TokenReader.nextOr_advances _)
        (r.item parent permitted child) >>= fun items => pure items.flatten) := by
  unfold Reader.children item
  congr 2

/-- A body gives the conditions of its items, in order. -/
theorem run_children_iff {s rest : TokenSource} {cs : List (Condition P)} :
    (r.children parent permitted child).run s = (.ok cs, rest) ↔
      ∃ groups, Gathers (TokenReader.nextOr s!"</{parent}>") (r.item parent permitted child) s
        groups rest ∧ cs = groups.flatten := by
  rw [children_eq, run_bind_eq_ok_iff]
  simp only [run_items_eq_ok_iff, run_pure_eq_ok_iff]
  constructor
  · intro h
    obtain ⟨groups, _, hgroups, rfl, rfl⟩ := h
    exact ⟨groups, hgroups, rfl⟩
  · intro h
    obtain ⟨groups, hgroups, rfl⟩ := h
    exact ⟨groups, rest, hgroups, rfl, rfl⟩

/-! ## 2. Elements -/

section Statement

variable {e : LeafElement} (levels : Nat)

/-- An element with an unknown tag fails at once. -/
theorem element_of_unknown (h : r.registry.find? e.tag = none) :
    r.element (levels + 1) e = Consumer.fail (.unknownStatement e.tag) := by
  rw [element, statement, h]
  rfl

/-- A composite is its body. -/
theorem element_of_composite {junction : Junction}
    (h : r.registry.find? e.tag = some (.composite junction)) :
    r.element (levels + 1) e =
      r.children e.tag (r.registry.allowedChildren e.tag) (r.element levels) >>= fun cs =>
        pure (.composite junction cs) := by
  rw [element, statement, h]
  rfl

/-- A leaf is what its statement reads, and the end of the element. -/
theorem element_of_leaf {read : LeafReader P} (h : r.registry.find? e.tag = some (.leaf read)) :
    r.element (levels + 1) e = mapError (ReadError.leaf e.tag) (read e) >>= fun p =>
      mapError ReadError.document (TokenReader.expectClose e.tag) >>= fun _ =>
        pure (.leaf p) := by
  rw [element, statement, h]
  rfl

end Statement

theorem run_element_zero_ne {e : LeafElement} {s rest : TokenSource} {c : Condition P} :
    (r.element 0 e).run s ≠ (.ok c, rest) := by
  intro h
  unfold Reader.element at h
  simp at h

/-- **An element is a composite with its children, or a leaf that is read up to its end.** -/
theorem run_element_succ_iff {levels : Nat} {e : LeafElement} {s rest : TokenSource}
    {c : Condition P} :
    (r.element (levels + 1) e).run s = (.ok c, rest) ↔
      (∃ junction cs, r.registry.find? e.tag = some (.composite junction) ∧
        (r.children e.tag (r.registry.allowedChildren e.tag) (r.element levels)).run s =
          (.ok cs, rest) ∧ c = .composite junction cs) ∨
      ∃ read p s₁, r.registry.find? e.tag = some (.leaf read) ∧ (read e).run s = (.ok p, s₁) ∧
        (TokenReader.expectClose e.tag).run s₁ = (.ok (), rest) ∧ c = .leaf p := by
  rw [Reader.element, run_bind_eq_ok_iff]
  simp only [run_statement_iff]
  constructor
  · intro h
    obtain ⟨statement, _, ⟨hfind, rfl⟩, h⟩ := h
    cases statement with
    | composite junction =>
      simp only [run_bind_eq_ok_iff, run_pure_eq_ok_iff] at h
      obtain ⟨cs, _, hchildren, rfl, rfl⟩ := h
      exact .inl ⟨junction, cs, hfind, hchildren, rfl⟩
    | leaf read =>
      simp only [run_bind_eq_ok_iff, run_pure_eq_ok_iff, run_mapError_eq_ok_iff,
        TokenReader.run_lift_iff] at h
      obtain ⟨p, s₁, hread, _, _, hclose, rfl, rfl⟩ := h
      exact .inr ⟨read, p, s₁, hfind, hread, hclose, rfl⟩
  · intro h
    rcases h with ⟨junction, cs, hfind, hchildren, rfl⟩ | ⟨read, p, s₁, hfind, hread, hclose, rfl⟩
    · refine ⟨.composite junction, s, ⟨hfind, rfl⟩, ?_⟩
      exact run_bind_eq_ok_iff.mpr ⟨cs, rest, hchildren, rfl⟩
    · refine ⟨.leaf read, s, ⟨hfind, rfl⟩, ?_⟩
      simp only [run_bind_eq_ok_iff, run_pure_eq_ok_iff, run_mapError_eq_ok_iff,
        TokenReader.run_lift_iff]
      exact ⟨p, s₁, hread, (), rest, hclose, rfl, rfl⟩

/-- A whole condition is one element behind blank text. -/
theorem run_read_iff {s rest : TokenSource} {c : Condition P} :
    r.read.run s = (.ok c, rest) ↔
      ∃ s₁ name attributes s₂, TokenReader.skipBlankText.run s = (.ok (), s₁) ∧
        TokenReader.next.run s₁ = (.ok (some (.opening name attributes)), s₂) ∧
        (r.element r.maxDepth ⟨name, attributes⟩).run s₂ = (.ok c, rest) := by
  unfold Reader.read
  simp only [run_bind_eq_ok_iff, TokenReader.run_lift_iff]
  constructor
  · intro h
    obtain ⟨_, s₁, hblanks, token, s₂, hnext, h⟩ := h
    rcases token with _ | ⟨name, attributes⟩ | content | _
    · simp at h
    · exact ⟨s₁, name, attributes, s₂, hblanks, hnext, h⟩
    · simp at h
    · simp at h
  · intro h
    obtain ⟨s₁, name, attributes, s₂, hblanks, hnext, h⟩ := h
    exact ⟨(), s₁, hblanks, some (.opening name attributes), s₂, hnext, h⟩

end Reader

end Verdict
