import Verdict.Proofs.Registry.History

/-!
# What a registry holds is what its steps say

* `BuildStep.registration?`, `BuildStep.permits`: what one step registers, and what it permits;
* `find?_apply`, `allowedChildren_apply`: the two tables after one step;
* `find?_build`, `mem_allowedChildren_build`: the two tables after several steps;
* `Holds`: a registry of certain registrations and permissions, and of nothing else;
* **`holds_build`**: every registry that is made from `bare` or `standard` is one of its history.
-/

namespace Verdict

variable {P : Type}

namespace BuildStep

/-- What a step registers. The built-in composites are never registered again, and no built-in tag
    becomes a composite; such a step registers nothing. -/
def registration? : BuildStep P → Option (String × Statement P)
  | leaf tag read =>
    if tag = Junction.all.tag ∨ tag = Junction.any.tag then none else some (tag, .leaf read)
  | composite tag junction => if tag ∈ builtInTags then none else some (tag, .composite junction)
  | allow _ _ => none

/-- The tags that a step permits directly below `parent`. -/
def permits (parent : String) : BuildStep P → List String
  | leaf _ _ => []
  | composite tag _ => if parent = tag ∧ tag ∉ builtInTags then builtInTags else []
  | allow name child => if parent = name then [child] else []

end BuildStep

namespace Registry

open BuildStep

/-! ## 1. One step -/

/-- A step changes what one tag stands for, if it registers anything. -/
theorem find?_apply (step : BuildStep P) (r : Registry P) (name : String) :
    (step.apply r).find? name = (step.registration?.toList.lookup name).or (r.find? name) := by
  have hlookup : ∀ (tag : String) (statement : Statement P),
      ([(tag, statement)].lookup name).or (r.find? name) =
        if name = tag then some statement else r.find? name := by
    intro tag statement
    rw [List.lookup_cons]
    by_cases h : name = tag
    · rw [if_pos h, beq_iff_eq.mpr h]
      rfl
    · rw [if_neg h, beq_eq_false_iff_ne.mpr h]
      rfl
  cases step with
  | leaf tag read =>
    show (r.registerLeaf tag read).find? name = _
    rw [find?_registerLeaf, registration?]
    by_cases h : tag = Junction.all.tag ∨ tag = Junction.any.tag
    · rw [if_pos h, if_neg fun hname => h.elim hname.2.1 hname.2.2]
      rfl
    · rw [if_neg h, Option.toList_some, hlookup]
      rw [not_or] at h
      simp only [ne_eq, h, not_false_eq_true, and_true]
  | composite tag junction =>
    show (r.registerComposite tag junction).find? name = _
    rw [find?_registerComposite, registration?]
    by_cases h : tag ∈ builtInTags
    · rw [if_pos h, if_neg fun hname => hname.2 h]
      rfl
    · rw [if_neg h, Option.toList_some, hlookup]
      simp only [h, not_false_eq_true, and_true]
  | allow parent child => rfl

theorem allowedChildren_allowAll (r : Registry P) (name parent : String) (children : List String) :
    (r.allowAll name children).allowedChildren parent =
      appendNew (r.allowedChildren parent) (if parent = name then children else []) := by
  unfold allowAll allowedChildren
  rw [List.lookup_cons]
  by_cases h : parent = name
  · rw [if_pos h, beq_iff_eq.mpr h, h]
    rfl
  · rw [if_neg h, beq_eq_false_iff_ne.mpr h]
    rfl

/-- A step adds the tags that it permits to those that are permitted already. -/
theorem allowedChildren_apply (step : BuildStep P) (r : Registry P) (parent : String) :
    (step.apply r).allowedChildren parent =
      appendNew (r.allowedChildren parent) (step.permits parent) := by
  cases step with
  | leaf tag read =>
    show (r.registerLeaf tag read).allowedChildren parent = r.allowedChildren parent
    unfold registerLeaf
    split <;> rfl
  | composite tag junction =>
    show (r.registerComposite tag junction).allowedChildren parent = _
    rw [permits, registerComposite]
    by_cases h : tag ∈ builtInTags
    · rw [if_pos h, if_neg fun hparent => hparent.2 h]
      rfl
    · rw [if_neg h]
      simp only [h, not_false_eq_true, and_true]
      exact allowedChildren_allowAll _ tag parent builtInTags
  | allow name child => exact allowedChildren_allowAll r name parent [child]

/-- New tags stand behind the old ones. -/
theorem prefix_appendNew (tags others : List String) : tags <+: appendNew tags others := by
  induction others generalizing tags with
  | nil => exact List.prefix_rfl
  | cons other rest ih =>
    rw [appendNew]
    split
    · exact ih tags
    · exact (List.prefix_append tags [other]).trans (ih _)

/-- No tag is added twice. -/
theorem nodup_appendNew {tags : List String} (h : tags.Nodup) (others : List String) :
    (appendNew tags others).Nodup := by
  induction others generalizing tags with
  | nil => exact h
  | cons other rest ih =>
    rw [appendNew]
    split
    · exact ih h
    · rename_i hother
      refine ih (List.nodup_append.mpr ⟨h, List.pairwise_singleton _ other, ?_⟩)
      intro a ha b hb hab
      obtain rfl := List.mem_singleton.mp hb
      exact hother (List.contains_iff_mem.mpr (hab ▸ ha))

/-- What a step permits is added behind what was permitted before. -/
theorem prefix_allowedChildren_apply (step : BuildStep P) (r : Registry P) (parent : String) :
    r.allowedChildren parent <+: (step.apply r).allowedChildren parent := by
  rw [allowedChildren_apply]
  exact prefix_appendNew _ _

/-! ## 2. Several steps -/

/-- A tag stands for what was registered under it last. -/
theorem find?_build (r : Registry P) (steps : List (BuildStep P)) (name : String) :
    (r.build steps).find? name =
      ((steps.filterMap registration?).reverse.lookup name).or (r.find? name) := by
  induction steps generalizing r with
  | nil => rfl
  | cons step steps ih =>
    have hregistrations : (step :: steps).filterMap registration? =
        step.registration?.toList ++ steps.filterMap registration? := by
      rw [List.filterMap_cons]
      cases step.registration? <;> rfl
    have hone : step.registration?.toList.reverse = step.registration?.toList := by
      cases step.registration? <;> rfl
    show ((step.apply r).build steps).find? name = _
    rw [ih, find?_apply, hregistrations, List.reverse_append, hone, List.lookup_append,
      Option.or_assoc]

/-- A tag is permitted where it was permitted at the start or where a step permits it. -/
theorem mem_allowedChildren_build {r : Registry P} {steps : List (BuildStep P)}
    {parent child : String} : child ∈ (r.build steps).allowedChildren parent ↔
      child ∈ r.allowedChildren parent ∨ ∃ step ∈ steps, child ∈ step.permits parent := by
  induction steps generalizing r with
  | nil =>
    show child ∈ r.allowedChildren parent ↔ _
    simp
  | cons step steps ih =>
    show child ∈ ((step.apply r).build steps).allowedChildren parent ↔ _
    rw [ih, allowedChildren_apply, mem_appendNew, or_assoc]
    simp only [List.mem_cons, exists_eq_or_imp]

/-- Several steps only append to what was permitted before. -/
theorem prefix_allowedChildren_build (r : Registry P) (steps : List (BuildStep P))
    (parent : String) : r.allowedChildren parent <+: (r.build steps).allowedChildren parent := by
  have hstep : ∀ step ∈ steps, ∀ r' : Registry P,
      r.allowedChildren parent <+: r'.allowedChildren parent →
      r.allowedChildren parent <+: (step.apply r').allowedChildren parent :=
    fun step _ r' hr' => hr'.trans (prefix_allowedChildren_apply step r' parent)
  exact build_preserves hstep List.prefix_rfl

/-- Several steps permit no tag twice. -/
theorem nodup_allowedChildren_build {r : Registry P} {parent : String}
    (h : (r.allowedChildren parent).Nodup) (steps : List (BuildStep P)) :
    ((r.build steps).allowedChildren parent).Nodup := by
  have hstep : ∀ step ∈ steps, ∀ r' : Registry P, (r'.allowedChildren parent).Nodup →
      ((step.apply r').allowedChildren parent).Nodup := by
    intro step _ r' hr'
    rw [allowedChildren_apply]
    exact nodup_appendNew hr' _
  exact build_preserves hstep h

/-- No step makes `condition` a composite. -/
theorem find?_conditionTag_apply_ne (step : BuildStep P) {r : Registry P} {j : Junction}
    (h : r.find? conditionTag ≠ some (.composite j)) :
    (step.apply r).find? conditionTag ≠ some (.composite j) := by
  cases step with
  | leaf tag read =>
    show (r.registerLeaf tag read).find? conditionTag ≠ _
    rw [find?_registerLeaf]
    split
    · intro hleaf
      cases hleaf
    · exact h
  | composite tag junction =>
    rw [find?_conditionTag_apply fun read heq => by cases heq]
    exact h
  | allow parent child => exact h

theorem find?_conditionTag_build_ne {r : Registry P} {j : Junction}
    (h : r.find? conditionTag ≠ some (.composite j)) (steps : List (BuildStep P)) :
    (r.build steps).find? conditionTag ≠ some (.composite j) := by
  have hstep : ∀ step ∈ steps, ∀ r' : Registry P, r'.find? conditionTag ≠ some (.composite j) →
      (step.apply r').find? conditionTag ≠ some (.composite j) :=
    fun step _ _ hr' => find?_conditionTag_apply_ne step hr'
  exact build_preserves hstep h

/-- The steps that permit a tag: those that allow it, and where it is built in, those that register
    a composite. -/
theorem exists_permits_iff {steps : List (BuildStep P)} {parent child : String} :
    (∃ step ∈ steps, child ∈ step.permits parent) ↔
      .allow parent child ∈ steps ∨
        child ∈ builtInTags ∧ ∃ j, (parent, .composite j) ∈ steps.filterMap registration? := by
  constructor
  · intro h
    obtain ⟨step, hstep, hpermits⟩ := h
    cases step with
    | leaf tag read => cases hpermits
    | composite tag junction =>
      rw [permits] at hpermits
      split at hpermits
      · rename_i h
        obtain ⟨rfl, htag⟩ := h
        have hregistration : (composite parent junction : BuildStep P).registration? =
            some (parent, .composite junction) := if_neg htag
        exact .inr ⟨hpermits, junction, List.mem_filterMap.mpr ⟨_, hstep, hregistration⟩⟩
      · cases hpermits
    | allow name other =>
      rw [permits] at hpermits
      split at hpermits
      · rename_i h
        subst h
        obtain rfl := List.mem_singleton.mp hpermits
        exact .inl hstep
      · cases hpermits
  · intro h
    rcases h with hallow | ⟨hchild, j, hregistered⟩
    · exact ⟨_, hallow, by simp [permits]⟩
    · obtain ⟨step, hstep, hregistration⟩ := List.mem_filterMap.mp hregistered
      cases step with
      | leaf tag read =>
        rw [registration?] at hregistration
        split at hregistration <;> cases hregistration
      | composite tag junction =>
        rw [registration?] at hregistration
        split at hregistration
        · cases hregistration
        · rename_i htag
          cases hregistration
          refine ⟨_, hstep, ?_⟩
          rw [permits, if_pos ⟨rfl, htag⟩]
          exact hchild
      | allow name other => cases hregistration

/-! ## 3. Registries and their histories -/

/-- The registrations that every registry starts with. -/
def builtInComposites : List (String × Statement P) :=
  [(Junction.all.tag, .composite .all), (Junction.any.tag, .composite .any)]

/-- A registry that holds these registrations, in the order in which they were made, and the
    permissions that these steps and its composites give. -/
structure Holds (r : Registry P) (registered : List (String × Statement P))
    (steps : List (BuildStep P)) : Prop where
  /-- The registration that was made last counts. -/
  find?_eq : ∀ tag, r.find? tag = registered.reverse.lookup tag
  find?_tag : ∀ j : Junction, r.find? j.tag = some (.composite j)
  find?_conditionTag_ne : ∀ j, r.find? conditionTag ≠ some (.composite j)
  /-- A composite permits the built-in tags from its registration on, whatever its tag is registered
      as later. -/
  isAllowedChild_iff : ∀ parent child, r.isAllowedChild parent child = true ↔
    .allow parent child ∈ steps ∨
      child ∈ builtInTags ∧ ∃ j, (parent, .composite j) ∈ registered
  nodup : ∀ parent, (r.allowedChildren parent).Nodup
  /-- Every further step only appends. -/
  appends : ∀ (step : BuildStep P) parent,
    r.allowedChildren parent <+: (step.apply r).allowedChildren parent
  builtInTags_prefix : ∀ j : Junction, builtInTags <+: r.allowedChildren j.tag

theorem isAllowedChild_iff_mem {r : Registry P} {parent child : String} :
    r.isAllowedChild parent child = true ↔ child ∈ r.allowedChildren parent :=
  List.contains_iff_mem

/-! ### The registry of the built-in composites -/

/-- At the start the built-in tags are permitted in the built-in composites. -/
theorem mem_allowedChildren_bare {parent child : String} :
    child ∈ (bare : Registry P).allowedChildren parent ↔ child ∈ builtInTags ∧
      ∃ j, (parent, .composite j) ∈ (builtInComposites : List (String × Statement P)) := by
  have hcomposite : ∀ j,
      (parent, .composite j) ∈ (builtInComposites : List (String × Statement P)) ↔
        parent = j.tag := by
    intro j
    cases j <;> simp [builtInComposites]
  unfold bare insertComposite
  rw [mem_allowedChildren_allowAll]
  show child ∈ (allowAll ⟨_, []⟩ _ _).allowedChildren parent ∨ _ ↔ _
  rw [mem_allowedChildren_allowAll]
  simp only [hcomposite]
  constructor
  · intro h
    rcases h with (hchild | ⟨hparent, hchild⟩) | ⟨hparent, hchild⟩
    · cases hchild
    · exact ⟨hchild, .all, hparent⟩
    · exact ⟨hchild, .any, hparent⟩
  · intro h
    obtain ⟨hchild, j, hparent⟩ := h
    cases j with
    | all => exact .inl (.inr ⟨hparent, hchild⟩)
    | any => exact .inr ⟨hparent, hchild⟩

theorem nodup_allowedChildren_bare (parent : String) :
    ((bare : Registry P).allowedChildren parent).Nodup := by
  unfold bare insertComposite
  rw [allowedChildren_allowAll]
  refine nodup_appendNew ?_ _
  show ((allowAll _ _ _).allowedChildren parent).Nodup
  rw [allowedChildren_allowAll]
  exact nodup_appendNew List.nodup_nil _

/-- Every registry made from `bare` holds what its steps say. -/
theorem holds_bare_build (steps : List (BuildStep P)) : Holds (bare.build steps)
    (builtInComposites ++ steps.filterMap registration?) steps where
  find?_eq tag := by
    rw [find?_build, List.reverse_append, List.lookup_append]
    rfl
  find?_tag := (canonical_build canonical_bare steps).find?_tag
  find?_conditionTag_ne j := find?_conditionTag_build_ne (fun h => by cases h) steps
  isAllowedChild_iff parent child := by
    rw [isAllowedChild_iff_mem, mem_allowedChildren_build, mem_allowedChildren_bare,
      exists_permits_iff]
    simp only [List.mem_append, exists_or]
    rw [and_or_left, or_left_comm]
  nodup parent := nodup_allowedChildren_build (nodup_allowedChildren_bare parent) steps
  appends step parent := prefix_allowedChildren_apply step _ parent
  builtInTags_prefix j := by
    have hstart : builtInTags = (bare : Registry P).allowedChildren j.tag := by
      cases j <;> rfl
    rw [hstart]
    exact prefix_allowedChildren_build bare steps j.tag

/-- **Every registry holds what its history says**, wherever it starts. A registry that starts as
    `standard` has a leaf step in front of its steps. -/
theorem holds_build (steps : List (BuildStep P)) :
    Holds (bare.build steps) (builtInComposites ++ steps.filterMap registration?) steps ∧
    ∀ [LeafCodec P], Holds (standard.build steps)
      (builtInComposites ++ (conditionTag, .leaf LeafCodec.read) :: steps.filterMap registration?)
      steps := by
  refine ⟨holds_bare_build steps, fun {_} => ?_⟩
  have hbuild : (standard.build steps : Registry P) =
      bare.build (.leaf conditionTag LeafCodec.read :: steps) := rfl
  have hregistration : (leaf conditionTag LeafCodec.read : BuildStep P).registration? =
      some (conditionTag, .leaf LeafCodec.read) := by
    rw [registration?, if_neg (by decide)]
  have h := holds_bare_build (.leaf conditionTag LeafCodec.read :: steps : List (BuildStep P))
  rw [List.filterMap_cons_some hregistration] at h
  rw [hbuild]
  refine { h with isAllowedChild_iff := fun parent child => ?_ }
  rw [h.isAllowedChild_iff, List.mem_cons]
  simp only [reduceCtorEq, false_or]

end Registry

end Verdict
