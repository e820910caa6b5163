import Verdict.Proofs.Registry.Contents

/-!
# Registries that only grow

* `BuildStep.IsNew`: a step that does not register a registered tag anew;
* `Registry.OnlyAdds`: steps each of which is new where its turn comes;
* `Registry.ExtendedBy`: what a registry says, another one says as well;
* **`extendedBy_build`**: steps that only add extend a registry.
-/

namespace Verdict

variable {P : Type}

/-- A step on a registry that registers no tag anew: its tag is not registered, or it is one of the
    built-in tags for which the step does nothing. -/
def BuildStep.IsNew (r : Registry P) : BuildStep P → Prop
  | leaf tag _ => r.find? tag = none ∨ tag = Junction.all.tag ∨ tag = Junction.any.tag
  | composite tag _ => r.find? tag = none ∨ tag ∈ builtInTags
  | allow _ _ => True

namespace Registry

/-- Steps of which each is new to the registry that those before it have made. -/
def OnlyAdds (r : Registry P) : List (BuildStep P) → Prop
  | [] => True
  | step :: steps => step.IsNew r ∧ OnlyAdds (step.apply r) steps

/-- What stands for something in `r` stands for the same in `r'`, and what is permitted in `r` is
    permitted in `r'`. -/
structure ExtendedBy (r r' : Registry P) : Prop where
  find?_eq : ∀ tag statement, r.find? tag = some statement → r'.find? tag = some statement
  allowedChildren_subset : ∀ parent, r.allowedChildren parent ⊆ r'.allowedChildren parent

theorem ExtendedBy.refl (r : Registry P) : ExtendedBy r r :=
  ⟨fun _ _ h => h, fun _ => List.Subset.refl _⟩

theorem ExtendedBy.trans {r₁ r₂ r₃ : Registry P} (h : ExtendedBy r₁ r₂) (h' : ExtendedBy r₂ r₃) :
    ExtendedBy r₁ r₃ where
  find?_eq tag statement hfind := h'.find?_eq tag statement (h.find?_eq tag statement hfind)
  allowedChildren_subset parent :=
    List.Subset.trans (h.allowedChildren_subset parent) (h'.allowedChildren_subset parent)

/-- A new step leaves what a registered tag stands for. -/
theorem find?_apply_of_isNew {step : BuildStep P} {r : Registry P} (h : step.IsNew r)
    {name : String} {statement : Statement P} (hfind : r.find? name = some statement) :
    (step.apply r).find? name = some statement := by
  cases step with
  | leaf tag read =>
    have hkept : ¬(name = tag ∧ tag ≠ Junction.all.tag ∧ tag ≠ Junction.any.tag) := by
      intro hname
      obtain ⟨rfl, hall, hany⟩ := hname
      rcases h with hnone | rfl | rfl
      · cases hnone.symm.trans hfind
      · exact hall rfl
      · exact hany rfl
    show (r.registerLeaf tag read).find? name = _
    rw [find?_registerLeaf, if_neg hkept, hfind]
  | composite tag junction =>
    have hkept : ¬(name = tag ∧ tag ∉ builtInTags) := by
      intro hname
      obtain ⟨rfl, htag⟩ := hname
      rcases h with hnone | hbuiltIn
      · cases hnone.symm.trans hfind
      · exact htag hbuiltIn
    show (r.registerComposite tag junction).find? name = _
    rw [find?_registerComposite, if_neg hkept, hfind]
  | allow parent child => exact hfind

/-- A new step extends a registry. -/
theorem extendedBy_apply {step : BuildStep P} {r : Registry P} (h : step.IsNew r) :
    ExtendedBy r (step.apply r) where
  find?_eq _ _ hfind := find?_apply_of_isNew h hfind
  allowedChildren_subset parent := (prefix_allowedChildren_apply step r parent).subset

/-- **Steps that only add extend a registry.** -/
theorem extendedBy_build {r : Registry P} {steps : List (BuildStep P)} (h : r.OnlyAdds steps) :
    ExtendedBy r (r.build steps) := by
  induction steps generalizing r with
  | nil => exact ExtendedBy.refl r
  | cons step steps ih =>
    obtain ⟨hstep, hsteps⟩ := h
    exact (extendedBy_apply hstep).trans (ih hsteps)

end Registry

end Verdict
