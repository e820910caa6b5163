import Verdict.Document.Nesting
import Verdict.Proofs.Document.Balance

/-!
# Measuring a document decides whether it is one element

* `le_of_scanNesting`: a scan answers no less than the levels that it has seen;
* `exists_scanNesting_of_balanced`: a body is scanned without a fault, whatever comes behind it;
* `exists_balanced_of_scanNesting`: tokens that a scan accepts inside an element begin with a body
  and the end of this element;
* **`isElement_iff_measure`**: the tokens that `measure` accepts are those of one element;
* `IsElement` and `WellFormed` are decidable, by `measure`.
-/

namespace Verdict

variable {position level deepest final : Nat} {tokens rest : List Token}

/-! ## 1. One step of a scan -/

theorem scanNesting_opening (position level deepest : Nat) (name : String)
    (attributes : List Attribute) (rest : List Token) :
    scanNesting position (level + 1) deepest (.opening name attributes :: rest) =
      scanNesting (position + 1) (level + 2) (max deepest (level + 2)) rest := rfl

theorem scanNesting_text (position level deepest : Nat) (content : String) (rest : List Token) :
    scanNesting position (level + 1) deepest (.text content :: rest) =
      scanNesting (position + 1) (level + 1) deepest rest := rfl

theorem scanNesting_closing (position level deepest : Nat) (rest : List Token) :
    scanNesting position (level + 1) deepest (.closing :: rest) =
      scanNesting (position + 1) level deepest rest := rfl

theorem eq_nil_of_scanNesting_zero {answer : Nat × Nat}
    (h : scanNesting (position + 1) 0 deepest tokens = .ok answer) : tokens = [] := by
  cases tokens with
  | nil => rfl
  | cons token rest => cases h

/-- A scan inside an element answers no less than the levels that it has seen. -/
theorem le_of_scanNesting {answer : Nat}
    (h : scanNesting position level deepest tokens = .ok (answer, final)) : deepest ≤ final := by
  induction tokens generalizing position level deepest with
  | nil =>
    obtain ⟨-, hdeepest⟩ := Prod.mk.inj (Except.ok.inj h)
    exact Nat.le_of_eq hdeepest
  | cons token rest ih =>
    unfold scanNesting at h
    split at h
    · cases h
    · cases token with
      | opening name attributes => exact Nat.le_trans (Nat.le_max_left _ _) (ih h)
      | text content =>
        dsimp only at h
        split at h
        · cases h
        · exact ih h
      | closing =>
        cases level with
        | zero => cases h
        | succ outer => exact ih h

/-- A scan sees no more levels than there are tokens. -/
theorem scanNesting_le_length {answer : Nat × Nat}
    (h : scanNesting position level deepest tokens = .ok answer) :
    answer.2 ≤ max deepest (level + tokens.length) := by
  induction tokens generalizing position level deepest with
  | nil =>
    obtain rfl := Except.ok.inj h
    exact Nat.le_max_left _ _
  | cons token rest ih =>
    rw [List.length_cons]
    unfold scanNesting at h
    split at h
    · cases h
    · cases token with
      | opening name attributes =>
        have hrest := ih h
        omega
      | text content =>
        dsimp only at h
        split at h
        · cases h
        · have hrest := ih h
          omega
      | closing =>
        cases level with
        | zero => cases h
        | succ outer =>
          have hrest := ih h
          omega

/-! ## 2. Bodies -/

/-- A body is scanned without a fault, and its levels are counted above those around it. -/
theorem exists_scanNesting_of_balanced {levels : Nat} {body : List Token}
    (h : Balanced levels body) (position level deepest : Nat) :
    ∃ position' deepest', deepest' ≤ max deepest (level + 1 + levels) ∧ ∀ rest,
      scanNesting position (level + 1) deepest (body ++ rest) =
        scanNesting position' (level + 1) deepest' rest := by
  induction h generalizing position level deepest with
  | nil => exact ⟨position, deepest, Nat.le_max_left _ _, fun rest => rfl⟩
  | text _ ih =>
    obtain ⟨position', deepest', hle, hscan⟩ := ih (position + 1) level deepest
    exact ⟨position', deepest', hle, hscan⟩
  | @element levels name attributes body others _ _ ihBody ih =>
    obtain ⟨p₁, d₁, hle₁, hscan₁⟩ := ihBody (position + 1) (level + 1) (max deepest (level + 2))
    obtain ⟨p₂, d₂, hle₂, hscan₂⟩ := ih (p₁ + 1) level d₁
    refine ⟨p₂, d₂, by omega, fun rest => ?_⟩
    rw [List.append_assoc, List.cons_append, List.cons_append, scanNesting_opening, hscan₁,
      scanNesting_closing, hscan₂]

/-- Levels above those of a body do no harm. -/
theorem Balanced.mono {levels more : Nat} {body : List Token} (h : Balanced levels body)
    (hle : levels ≤ more) : Balanced more body := by
  induction h generalizing more with
  | nil => exact .nil
  | text _ ih => exact .text (ih hle)
  | element _ _ ihBody ih =>
    obtain ⟨below, rfl⟩ := Nat.exists_eq_add_of_le' (Nat.le_trans (Nat.le_add_left 1 _) hle)
    exact .element (ihBody (by omega)) (ih hle)

/-- Tokens that a scan accepts inside an element begin with the rest of its body and its end. The
    induction is on the number of tokens, since behind an inner element the scan goes on. -/
theorem exists_balanced_of_scanNesting
    (h : scanNesting position (level + 1) deepest tokens = .ok (0, final)) :
    ∃ body rest position' deepest', tokens = body ++ .closing :: rest ∧
      Balanced (final - (level + 1)) body ∧
      scanNesting (position' + 1) level deepest' rest = .ok (0, final) := by
  induction hn : tokens.length using Nat.strongRecOn generalizing position level deepest tokens with
  | _ n ih =>
    cases tokens with
    | nil => cases h
    | cons token tokens =>
      subst hn
      cases token with
      | text content =>
        rw [scanNesting_text] at h
        obtain ⟨body, rest, position', deepest', rfl, hbody, hrest⟩ :=
          ih _ (Nat.lt_succ_self _) h rfl
        exact ⟨_, rest, position', deepest', rfl, .text hbody, hrest⟩
      | closing =>
        rw [scanNesting_closing] at h
        exact ⟨[], tokens, position, deepest, rfl, .nil, h⟩
      | opening name attributes =>
        rw [scanNesting_opening] at h
        have hfinal := le_of_scanNesting h
        obtain ⟨inner, behind, p₁, d₁, rfl, hinner, hbehind⟩ := ih _ (Nat.lt_succ_self _) h rfl
        have hshorter : behind.length < (inner ++ .closing :: behind).length + 1 := by
          simp only [List.length_append, List.length_cons]
          omega
        obtain ⟨others, rest, p₂, d₂, rfl, hothers, hrest⟩ := ih _ hshorter hbehind rfl
        have hlevels : final - (level + 1) = final - (level + 2) + 1 := by omega
        rw [hlevels] at hothers ⊢
        exact ⟨.opening name attributes :: inner ++ .closing :: others, rest, p₂, d₂, by simp,
          .element hinner hothers, hrest⟩

/-! ## 3. Elements -/

theorem measure_eq_ok_iff {depth : Nat} :
    measure tokens = .ok depth ↔ tokens ≠ [] ∧ scanNesting 0 0 0 tokens = .ok (0, depth) := by
  unfold measure
  cases tokens with
  | nil => simp [scanNesting]
  | cons token rest =>
    cases scanNesting 0 0 0 (token :: rest) with
    | error fault => simp
    | ok answer =>
      obtain ⟨level, deepest⟩ := answer
      by_cases h : level = 0
      · simp [h]
      · simp [h]

/-- A document is no deeper than it has tokens. -/
theorem le_length_of_measure {depth : Nat} (h : measure tokens = .ok depth) :
    depth ≤ tokens.length := by
  have hle := scanNesting_le_length (measure_eq_ok_iff.mp h).2
  omega

/-- **`measure` accepts the tokens of one element and nothing else**, and its answer bounds their
    levels. -/
theorem isElement_iff_measure {levels : Nat} :
    IsElement levels tokens ↔ ∃ depth, measure tokens = .ok depth ∧ depth ≤ levels := by
  simp only [measure_eq_ok_iff]
  constructor
  · intro h
    obtain ⟨hbody⟩ := h
    rename_i levels name attributes body
    obtain ⟨position, depth, hdepth, hscan⟩ := exists_scanNesting_of_balanced hbody 1 0 1
    refine ⟨depth, ⟨List.cons_ne_nil _ _, ?_⟩, by omega⟩
    show scanNesting 1 1 1 (body ++ [.closing]) = _
    rw [hscan, scanNesting_closing]
    rfl
  · intro h
    obtain ⟨depth, ⟨hne, hscan⟩, hdepth⟩ := h
    cases tokens with
    | nil => exact absurd rfl hne
    | cons token tokens =>
      cases token with
      | text content => cases hscan
      | closing => cases hscan
      | opening name attributes =>
        have hscan : scanNesting 1 1 1 tokens = .ok (0, depth) := hscan
        have hpositive := le_of_scanNesting hscan
        obtain ⟨body, rest, _, _, rfl, hbody, hrest⟩ := exists_balanced_of_scanNesting hscan
        obtain rfl := eq_nil_of_scanNesting_zero hrest
        have hlevels : levels = levels - 1 + 1 := by omega
        rw [hlevels]
        exact .mk (hbody.mono (by omega))

instance (levels : Nat) (tokens : List Token) : Decidable (IsElement levels tokens) :=
  match h : measure tokens with
  | .ok depth =>
    if hle : depth ≤ levels then .isTrue (isElement_iff_measure.mpr ⟨depth, h, hle⟩)
    else .isFalse fun helement => by
      obtain ⟨other, hother, hle'⟩ := isElement_iff_measure.mp helement
      obtain rfl := Except.ok.inj (h.symm.trans hother)
      exact hle hle'
  | .error _ => .isFalse fun helement => by
      obtain ⟨depth, hdepth, -⟩ := isElement_iff_measure.mp helement
      cases h.symm.trans hdepth

instance (tokens : List Token) : Decidable (WellFormed tokens) :=
  decidable_of_iff (IsElement maxNesting tokens ∧ ∀ token ∈ tokens, token.isNamed = true)
    ⟨fun h => ⟨h.1, h.2⟩, fun h => ⟨h.isElement, h.isNamed⟩⟩

end Verdict
