import Verdict.Proofs.Condition.Paths
import Verdict.Proofs.Condition.Writing
import Verdict.Proofs.Leaf.Draft

/-!
# The tokens of a condition, made of drafts

* `Condition.written`: the tokens of a tree, made of the drafts of its leaves;
* **`tokens?_eq_ok_iff`**: a tree has these tokens if every leaf of it has some;
* **`failure?_tokens?`**: otherwise it fails as the first leaf that has none;
* `exists_tokens?_eq_error`: so does a tree with a leaf that leaves an element open.
-/

namespace Verdict.Condition

variable {P : Type} [LeafCodec P]

mutual

/-- The tokens of a tree, if every leaf of it has some. -/
def written : Condition P → List Token
  | leaf p => (leafDraft p).tokens (LeafCodec.tag p)
  | composite junction children => .opening junction.tag [] :: writtenAll children ++ [.closing]

/-- The tokens of several trees, in order. -/
def writtenAll : List (Condition P) → List Token
  | [] => []
  | c :: rest => c.written ++ writtenAll rest

end

/-- The opening tag of the root. -/
def openingTag : Condition P → Token
  | leaf p => .opening (LeafCodec.tag p) (leafDraft p).attributes
  | composite junction _ => .opening junction.tag []

theorem exists_written_eq_cons (c : Condition P) :
    ∃ inside, c.written = c.openingTag :: inside := by
  cases c with
  | leaf p => exact ⟨_, rfl⟩
  | composite junction children => exact ⟨_, rfl⟩

mutual

/-- **A tree has tokens if every leaf of it has some**, and these make up its tokens. -/
theorem tokens?_eq_ok_iff {c : Condition P} {tokens : List Token} :
    c.tokens? = .ok tokens ↔ (∀ p ∈ c.leafList, Writable p) ∧ tokens = c.written := by
  match c with
  | leaf p => simp [tokens?, leafList, written, leafTokens_eq_ok_iff]
  | composite junction children =>
    rw [tokens?_composite_eq_ok_iff, written, leafList]
    simp only [tokensAll?_eq_ok_iff]
    constructor
    · rintro ⟨_, ⟨hleaves, rfl⟩, rfl⟩
      exact ⟨hleaves, rfl⟩
    · rintro ⟨hleaves, rfl⟩
      exact ⟨_, ⟨hleaves, rfl⟩, rfl⟩

theorem tokensAll?_eq_ok_iff {cs : List (Condition P)} {tokens : List Token} :
    tokensAll? cs = .ok tokens ↔ (∀ p ∈ leafLists cs, Writable p) ∧ tokens = writtenAll cs := by
  match cs with
  | [] => simp [tokensAll?, leafLists, writtenAll, pure, Except.pure, eq_comm]
  | c :: rest =>
    rw [tokensAll?_cons_eq_ok_iff, leafLists, writtenAll]
    simp only [@tokens?_eq_ok_iff c, @tokensAll?_eq_ok_iff rest, List.mem_append, or_imp,
      forall_and]
    constructor
    · rintro ⟨_, _, ⟨hfirst, rfl⟩, ⟨hothers, rfl⟩, rfl⟩
      exact ⟨⟨hfirst, hothers⟩, rfl⟩
    · rintro ⟨⟨hfirst, hothers⟩, rfl⟩
      exact ⟨_, _, ⟨hfirst, rfl⟩, ⟨hothers, rfl⟩, rfl⟩

end

/-- The error of an outcome. -/
def failure? : Except WriteError (List Token) → Option WriteError
  | .ok _ => none
  | .error e => some e

mutual

/-- **A tree fails as the first of its leaves that has no tokens.** -/
theorem failure?_tokens? (c : Condition P) :
    failure? c.tokens? = c.leafList.findSome? fun p => failure? (leafTokens p) := by
  match c with
  | leaf p =>
    rw [tokens?, leafList, List.findSome?_singleton]
  | composite junction children =>
    rw [tokens?, leafList, ← failure?_tokensAll? children]
    cases tokensAll? children <;> rfl

theorem failure?_tokensAll? (cs : List (Condition P)) :
    failure? (tokensAll? cs) = (leafLists cs).findSome? fun p => failure? (leafTokens p) := by
  match cs with
  | [] => rfl
  | c :: rest =>
    rw [tokensAll?, leafLists, List.findSome?_append, ← failure?_tokens? c,
      ← failure?_tokensAll? rest]
    rcases c.tokens? with _ | first
    · rfl
    · cases tokensAll? rest <;> rfl

end

/-- A tree has no tokens if some leaf of it leaves an element of its body open; this is the reason
    if it is the first leaf that has no tokens, and makes all of its calls. -/
theorem exists_tokens?_eq_error {c : Condition P} {before after : List P} {p : P}
    (hleaves : c.leafList = before ++ p :: after) (hopen : (leafDraft p).depth ≠ 0) :
    ∃ e, c.tokens? = .error e ∧ ((∀ q ∈ before, Writable q) →
      (leafResult p).1 = .ok () → e = .document .unbalanced) := by
  cases h : c.tokens? with
  | ok tokens =>
    have hwritable := (tokens?_eq_ok_iff.mp h).1 p (by simp [hleaves])
    exact absurd hwritable.closed hopen
  | error e =>
    refine ⟨e, rfl, fun hbefore hends => ?_⟩
    have hfirst := failure?_tokens? c
    have hnone : before.findSome? (fun q => failure? (leafTokens q)) = none := by
      rw [List.findSome?_eq_none_iff]
      intro q hq
      rw [leafTokens_eq_ok_iff.mpr ⟨hbefore q hq, rfl⟩]
      rfl
    rw [h, hleaves, List.findSome?_append, hnone, Option.none_or, List.findSome?_cons,
      leafTokens_eq_unbalanced hends hopen] at hfirst
    exact Option.some.inj hfirst

end Verdict.Condition
