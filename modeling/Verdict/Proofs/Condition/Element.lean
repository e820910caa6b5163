import Verdict.Proofs.Condition.Writing
import Verdict.Proofs.Document.Placement

/-!
# A condition is written as one element

* `exists_body_of_leafTokens`: whatever a leaf does, its tokens are one element;
* `Output.Placed`: an output whose tokens have their place wherever it begins;
* `placed_output`: so is that of every tree, even where it ends with an error;
* **`exists_measure_of_tokens?`**: the tokens of a tree are one element;
* `toText_eq_error`, `exists_toText_of_tokens?`: the text of a tree is the layout of its tokens.
-/

namespace Verdict

open Condition

variable {P : Type} [LeafCodec P]

/-! ## 1. Leaves -/

/-- **The tokens of a leaf are one element, whatever the leaf does**: a draft refuses to close what
    it did not open, and a body that leaves an element open is no body. -/
theorem exists_body_of_leafTokens {p : P} {tokens : List Token} (h : leafTokens p = .ok tokens) :
    ∃ attributes body, tokens = .opening (LeafCodec.tag p) attributes :: body ++ [.closing] ∧
      openAfter 0 body = some 0 := by
  unfold leafTokens at h
  rcases hwrite : (LeafCodec.write p).result {} with ⟨e | _, draft⟩ <;> rw [hwrite] at h
  · cases h
  · dsimp only at h
    unfold LeafDraft.parts at h
    by_cases hdepth : draft.depth = 0
    · rw [if_pos hdepth] at h
      have hbody := draft.openAfter_body
      rw [hdepth] at hbody
      exact ⟨draft.attributes, draft.body, (Except.ok.inj h).symm, hbody⟩
    · rw [if_neg hdepth] at h
      cases h

/-! ## 2. Outputs -/

namespace Output

/-- The tokens of an output have their place wherever it begins, and if it comes to its end, it
    leaves as many elements open as it finds. -/
def Placed (o : Output) : Prop :=
  ∀ level, ∃ final, within level o.tokens = some final ∧ (o.ending = .ok () → final = level)

variable {a b o : Output}

theorem placed_error (e : WriteError) : (ofTokens (.error e)).Placed :=
  fun level => ⟨level, rfl, fun _ => rfl⟩

theorem placed_nil : (ofTokens (.ok [])).Placed := fun level => ⟨level, rfl, fun _ => rfl⟩

theorem Placed.andThen (ha : a.Placed) (hb : b.Placed) : (a.andThen b).Placed := by
  intro level
  obtain ⟨middle, hmiddle, hlevel⟩ := ha level
  obtain ⟨first, e | _⟩ := a
  · -- Nothing comes after an error, and nothing is said about the level there.
    exact ⟨middle, hmiddle, fun h => by cases h⟩
  · obtain rfl := hlevel rfl
    obtain ⟨final, hfinal, hends⟩ := hb middle
    refine ⟨final, ?_, hends⟩
    show within middle (first ++ b.tokens) = some final
    rw [within_append, hmiddle]
    exact hfinal

/-- An element around an output. -/
theorem Placed.element (h : o.Placed) (name : String) (attributes : List Attribute) :
    ((ofTokens (.ok [.opening name attributes])).andThen
      (o.andThen (ofTokens (.ok [.closing])))).Placed := by
  intro level
  obtain ⟨final, hfinal, hends⟩ := h (level + 1)
  obtain ⟨tokens, e | _⟩ := o
  · exact ⟨final, hfinal, fun h => by cases h⟩
  · obtain rfl := hends rfl
    refine ⟨level, ?_, fun _ => rfl⟩
    show within (level + 1) (tokens ++ [.closing]) = some level
    rw [within_append, hfinal]
    rfl

/-- The output of a leaf is that of its element. -/
theorem placed_leafTokens (p : P) : (ofTokens (leafTokens p)).Placed := by
  cases h : leafTokens p with
  | error e => exact placed_error e
  | ok tokens =>
    obtain ⟨attributes, body, rfl, hbody⟩ := exists_body_of_leafTokens h
    intro level
    refine ⟨level, ?_, fun _ => rfl⟩
    have hinside := within_of_openAfter hbody level
    rw [Nat.zero_add] at hinside
    show within (level + 1) (body ++ [.closing]) = some level
    rw [within_append, hinside]
    rfl

end Output

namespace Condition

mutual

/-- The tokens that writing a tree puts out have their place. -/
theorem placed_output (c : Condition P) : c.output.Placed := by
  match c with
  | leaf p => exact Output.placed_leafTokens p
  | composite junction children => exact (placed_outputAll children).element junction.tag []

theorem placed_outputAll (cs : List (Condition P)) : (outputAll cs).Placed := by
  match cs with
  | [] => exact Output.placed_nil
  | c :: rest => exact (placed_output c).andThen (placed_outputAll rest)

end

/-! ## 3. Elements -/

/-- The tokens of several trees close as much as they open. -/
theorem openAfter_of_tokensAll? {cs : List (Condition P)} {tokens : List Token}
    (h : tokensAll? cs = .ok tokens) : openAfter 0 tokens = some 0 := by
  rw [← whole_outputAll] at h
  obtain ⟨hending, rfl⟩ := Output.whole_eq_ok_iff.mp h
  obtain ⟨final, hfinal, hends⟩ := placed_outputAll cs 0
  obtain rfl := hends hending
  exact openAfter_of_within hfinal

/-- **The tokens of a tree are one element.** -/
theorem exists_measure_of_tokens? {c : Condition P} {tokens : List Token}
    (h : c.tokens? = .ok tokens) : ∃ depth, measure tokens = .ok depth := by
  cases c with
  | leaf p =>
    obtain ⟨attributes, body, rfl, hbody⟩ := exists_body_of_leafTokens h
    exact exists_measure_of_openAfter hbody _ attributes
  | composite junction children =>
    obtain ⟨body, hchildren, rfl⟩ := tokens?_composite_eq_ok_iff.mp h
    exact exists_measure_of_openAfter (openAfter_of_tokensAll? hchildren) junction.tag []

/-! ## 4. Texts -/

/-- A layout takes everything that writing a tree puts out. -/
theorem exists_layout_output (c : Condition P) : ∃ l : Layout,
    Layout.putAll? {} c.output.tokens = some l ∧ (c.output.ending = .ok () → l.bodies = []) := by
  obtain ⟨final, hfinal, hends⟩ := placed_output c 0
  obtain ⟨l, hput, hbodies⟩ := @Layout.exists_putAll?_of_within final c.output.tokens {} hfinal
  exact ⟨l, hput, fun h => List.eq_nil_of_length_eq_zero (hbodies.trans (hends h))⟩

/-- A tree without tokens has no text, for the same reason. -/
theorem toText_eq_error {c : Condition P} {e : WriteError} (h : c.tokens? = .error e) :
    c.toText = .error e := by
  obtain ⟨l, hput, -⟩ := exists_layout_output c
  rw [toText, writeTo_eq_put, Output.result_put (Layout.result_forM_put hput)]
  rw [← whole_output, Output.whole] at h
  cases hending : c.output.ending with
  | error e' =>
    rw [hending] at h
    obtain rfl := Except.error.inj h
    rfl
  | ok _ =>
    rw [hending] at h
    cases h

/-- The text of a tree is the layout of its tokens. -/
theorem exists_toText_of_tokens? {c : Condition P} {tokens : List Token}
    (h : c.tokens? = .ok tokens) :
    ∃ text, c.toText = .ok text ∧ Layout.ofTokens tokens = .ok text := by
  rw [← whole_output] at h
  obtain ⟨hending, rfl⟩ := Output.whole_eq_ok_iff.mp h
  obtain ⟨l, hput, hclosed⟩ := exists_layout_output c
  have hfinish : l.finish = .ok l.text := by
    rw [Layout.finish, hclosed hending]
    rfl
  refine ⟨l.text, ?_, ?_⟩
  · rw [toText, writeTo_eq_put, Output.result_put (Layout.result_forM_put hput), hending]
    show l.finish.mapError WriteError.document = _
    rw [hfinish]
    rfl
  · rw [Layout.ofTokens, Layout.result_forM_put hput]
    exact hfinish

end Condition

end Verdict
