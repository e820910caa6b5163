import Verdict.Condition.Evaluation
import Verdict.Proofs.Condition.Basic
import Verdict.Proofs.Condition.Writing
import Verdict.Proofs.Matcher.Codec
import Verdict.Proofs.Reading.Derivation

/-!
# A condition that is written is read back

* `ofElement_writtenAttributes`: the element of a text matcher makes this matcher;
* `exists_derives`: the tokens of a condition derive it, under every registry that reads `condition`
  as text matchers and keeps the built-in composites;
* **`read_toTokens_roundTrip`**: under every extension of the standard registry, a condition that is
  written is read back, and what is behind it is left.
-/

namespace Verdict

open Condition Registry

/-! ## 1. Leaves -/

theorem joinedTexts_toList (pattern : Option String) : joinedTexts pattern.toList = pattern := by
  cases pattern with
  | none => rfl
  | some content =>
    show some (String.join [content]) = some content
    simp [String.join]

theorem ofElement_writtenAttributes (tag : String) (m : TextMatcher) :
    TextMatcher.ofElement ⟨tag, TextMatcher.writtenAttributes m.options⟩
      (joinedTexts m.options.pattern.toList) = .ok m := by
  rw [joinedTexts_toList]
  refine ofElement_eq_ok_iff.mpr ⟨_, TextMatcher.readOptions_writtenAttributes tag m.options, ?_⟩
  show (MatchOptions.compile m.options).mapError LeafError.matcher = .ok m
  rw [TextMatcher.compile_options]
  rfl

/-! ## 2. Trees -/

mutual

/-- A tree has tokens, which derive it with as many levels as it has. -/
theorem exists_derives {r : Registry TextMatcher} (hr : Canonical r)
    (hcondition : r.find? conditionTag = some (.leaf TextMatcher.readElement))
    (t : Condition TextMatcher) :
    ∃ tag attributes body, t.tokens? = .ok (.opening tag attributes :: body) ∧
      tag ∈ builtInTags ∧
      ∀ levels, t.depth ≤ levels → Derives r levels (.opening tag attributes :: body) t := by
  match t with
  | .leaf m =>
    refine ⟨_, _, _, TextMatcher.leafTokens_matcher m, List.mem_cons_self, fun levels h => ?_⟩
    obtain ⟨below, rfl⟩ := Nat.exists_eq_add_of_le' h
    exact DerivesElement.leaf hcondition (ofElement_writtenAttributes conditionTag m)
  | .composite junction children =>
    obtain ⟨items, htokens, hitems⟩ := exists_items hr hcondition junction children
    refine ⟨_, _, _, tokens?_composite_eq_ok_iff.mpr ⟨items, htokens, rfl⟩,
      tag_mem_builtInTags junction, fun levels h => ?_⟩
    have hdepth : 1 + maxDepth children ≤ levels := h
    obtain ⟨below, rfl⟩ := Nat.exists_eq_add_of_le' (Nat.le_trans (Nat.le_add_right 1 _) hdepth)
    exact DerivesElement.composite (hr.find?_tag junction) (hitems below (by omega))

/-- The tokens of several trees are items of every composite. -/
theorem exists_items {r : Registry TextMatcher} (hr : Canonical r)
    (hcondition : r.find? conditionTag = some (.leaf TextMatcher.readElement))
    (junction : Junction) (ts : List (Condition TextMatcher)) :
    ∃ items, tokensAll? ts = .ok items ∧
      ∀ levels, maxDepth ts ≤ levels → Items r junction.tag (Derives r levels) items ts := by
  match ts with
  | [] => exact ⟨[], rfl, fun _ _ => .nil⟩
  | t :: rest =>
    obtain ⟨tag, attributes, body, htokens, htag, ht⟩ := exists_derives hr hcondition t
    obtain ⟨items, hrestTokens, hrest⟩ := exists_items hr hcondition junction rest
    refine ⟨_, tokensAll?_cons_eq_ok_iff.mpr ⟨_, items, htokens, hrestTokens, rfl⟩,
      fun levels h => ?_⟩
    have hdepth : max t.depth (maxDepth rest) ≤ levels := h
    exact .element (hr.builtIn_mem junction tag htag) (ht levels (by omega))
      (hrest levels (by omega))

end

/-! ## 3. Extensions of the standard registry -/

/-- **Reading undoes writing under every extension of the standard registry that leaves `condition`
    as it is**: it answers the tree that was written and leaves what is behind it. Trees that
    compare as equal, by the options of their leaves alone, accept the same texts. -/
theorem read_toTokens_roundTrip {steps : List (BuildStep TextMatcher)}
    (hsteps : ∀ read, .leaf conditionTag read ∉ steps) {depth : Nat} {t : Condition TextMatcher}
    (hdepth : t.depth ≤ depth) (rest : List Token) :
    ∃ tokens, t.toTokens = .ok tokens ∧
      (Reader.read ⟨standard.build steps, depth⟩).run (.ofTokens (tokens ++ rest)) =
        (.ok t, .ofTokens rest) ∧
      (t == t) = true ∧
      ∀ u, (u == t) = true → ∀ text, u.evaluate (fun m => (pure (m.accepts text) : Id Bool)) =
        t.evaluate fun m => (pure (m.accepts text) : Id Bool) := by
  have hcondition : (standard.build steps : Registry TextMatcher).find? conditionTag =
      some (.leaf TextMatcher.readElement) := by
    rw [find?_conditionTag_build hsteps]
    rfl
  have hcanonical := canonical_build (canonical_standard (P := TextMatcher)) steps
  obtain ⟨tag, attributes, body, htokens, -, ht⟩ := exists_derives hcanonical hcondition t
  refine ⟨_, toTokens_eq_ok htokens, ?_, BEq.rfl, fun u hu text => ?_⟩
  · have hblanks : ∀ b ∈ ([] : List Token), b.isBlankText = true := by simp
    exact run_read_of_derives hblanks (ht depth hdepth) rest
  · rw [LawfulBEq.eq_of_beq hu]

/-- A pattern of whitespace only, beside a composite without children, where a leaf that nothing
    can be read as was added. -/
theorem read_toTokens_whitespace_pattern :
    let steps : List (BuildStep TextMatcher) := [.leaf "never" fun _ => Consumer.fail (.other ""),
      .composite conditionTag .all, .allow Junction.any.tag "never"]
    (∀ read, .leaf conditionTag read ∉ steps) ∧
      ∃ m, TextMatcher.basic " " = .ok m ∧ (anyOf [leaf m, allOf []]).depth ≤ 2 ∧
        ∃ tokens, (anyOf [leaf m, allOf []]).toTokens = .ok tokens ∧
          (Reader.read ⟨standard.build steps, 2⟩).run (.ofTokens (tokens ++ [.closing])) =
            (.ok (anyOf [leaf m, allOf []]), .ofTokens [.closing]) := by
  intro steps
  have hsteps : ∀ read, .leaf conditionTag read ∉ steps := by
    intro read
    simp [steps, conditionTag]
  have hok : (TextMatcher.basic " ").isOk = true := by decide +kernel
  cases h : TextMatcher.basic " " with
  | error e =>
    rw [h] at hok
    cases hok
  | ok m =>
    have hdepth : (anyOf [leaf m, allOf []]).depth ≤ 2 := by simp [depth, maxDepth]
    obtain ⟨tokens, htokens, hread, -⟩ := read_toTokens_roundTrip hsteps hdepth [.closing]
    exact ⟨hsteps, m, rfl, hdepth, tokens, htokens, hread⟩

end Verdict
