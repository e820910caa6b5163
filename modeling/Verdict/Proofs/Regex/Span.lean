import Mathlib.Data.List.Basic
import Verdict.Regex.Matching

/-!
# What a regular expression matches

* `Parts`: a property of parts of texts -- of what stands before a part, of the part itself, and of
  what stands behind it;
* `Parts.followedBy`, `Parts.times`: two parts in a row, and several of one kind;
* `Regex.Spans`: the parts that an expression matches, by recursion on it;
* `spans_sequence_cons`, `spans_alternation`: those of several expressions;
* `spans_between_ends`, `exists_whole_part`: those of an expression between the two ends of a text.
-/

namespace Verdict

/-- A property of parts of texts: of what stands before a part, of the part, and of what stands
    behind it. -/
abbrev Parts := List Char → List Char → List Char → Prop

namespace Parts

/-- A part of the first kind and directly behind it one of the second kind. -/
def followedBy (X Y : Parts) : Parts := fun before part after =>
  ∃ p q, part = p ++ q ∧ X before p (q ++ after) ∧ Y (before ++ p) q after

/-- So many parts of a kind in a row. -/
def times (X : Parts) : Nat → Parts
  | 0 => fun _ part _ => part = []
  | n + 1 => X.followedBy (X.times n)

end Parts

namespace Regex

/-- The parts that an expression matches. An upper bound of a repetition below the lower one is the
    lower one. -/
def Spans : Regex → Parts
  | empty => fun _ part _ => part = []
  | one c => fun _ part _ => ∃ x, part = [x] ∧ c.contains x.toNat = true
  | assert a => fun before part after =>
    part = [] ∧ a.holds before.getLast? after.head? = true
  | seq r s => r.Spans.followedBy s.Spans
  | alt r s => fun before part after => r.Spans before part after ∨ s.Spans before part after
  | iterate r least most => fun before part after =>
    ∃ n, least ≤ n ∧ (∀ bound ∈ most, n ≤ max least bound) ∧ r.Spans.times n before part after

variable {before part after : List Char}

/-- Several expressions in a row match as the first one and then the others. -/
theorem spans_sequence_cons {r : Regex} {rs : List Regex} :
    (sequence (r :: rs)).Spans before part after ↔
      r.Spans.followedBy (sequence rs).Spans before part after := by
  cases rs with
  | nil =>
    constructor
    · intro h
      exact ⟨part, [], (List.append_nil part).symm, h, rfl⟩
    · rintro ⟨p, q, rfl, h, rfl⟩
      rwa [List.append_nil]
  | cons s rest => exact Iff.rfl

/-- Any of several expressions matches where one of them does. -/
theorem spans_alternation {rs : List Regex} (hrs : rs ≠ []) :
    (alternation rs).Spans before part after ↔ ∃ r ∈ rs, r.Spans before part after := by
  induction rs with
  | nil => exact absurd rfl hrs
  | cons r rest ih =>
    cases rest with
    | nil => simp [alternation]
    | cons s others =>
      have hothers := ih (List.cons_ne_nil s others)
      rw [List.exists_mem_cons_iff, ← hothers]
      exact Iff.rfl

/-- An expression between the two ends matches whole texts only. -/
theorem spans_between_ends {r : Regex} :
    (sequence [assert .textStart, r, assert .textEnd]).Spans before part after ↔
      before = [] ∧ after = [] ∧ r.Spans [] part [] := by
  constructor
  · rintro ⟨_, _, rfl, ⟨rfl, hstart⟩, p, _, rfl, hr, rfl, hend⟩
    have hbefore : before = [] := by simpa [Assertion.holds] using hstart
    have hafter : after = [] := by simpa [Assertion.holds] using hend
    subst hbefore hafter
    exact ⟨rfl, rfl, by simpa using hr⟩
  · rintro ⟨rfl, rfl, hr⟩
    exact ⟨[], part, rfl, ⟨rfl, rfl⟩, part, [], (List.append_nil part).symm, hr, rfl, rfl⟩

/-- The only part with nothing around it is the whole text. -/
theorem exists_whole_part {text : List Char} {X : List Char → Prop} :
    (∃ before part after, text = before ++ (part ++ after) ∧ before = [] ∧ after = [] ∧ X part) ↔
      X text := by
  constructor
  · rintro ⟨_, part, _, rfl, rfl, rfl, h⟩
    rwa [List.nil_append, List.append_nil]
  · exact fun h => ⟨[], text, [], (List.append_nil text).symm, rfl, rfl, h⟩

end Regex

end Verdict
