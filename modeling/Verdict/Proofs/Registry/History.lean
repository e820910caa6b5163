import Verdict.Registry

/-!
# Registries that are made step by step

* `BuildStep`, `Registry.build`: the steps that extend a registry, and several of them in a row;
* `find?_registerLeaf`, `find?_registerComposite`, `mem_allowedChildren_allowAll`: what a step
  changes;
* `build_preserves`: what every step preserves is preserved by all of them;
* `Canonical`: `allOf` and `anyOf` are what they are called, and the built-in tags may stand in
  them;
* **`canonical_build`**, `find?_conditionTag_build`: no sequence of steps breaks this, and only a
  leaf step named `condition` changes how `condition` is read;
* `LeavesReadBy`, **`leavesReadBy_build`**: registries whose leaves are all read in one way.
-/

namespace Verdict

/-- One step of making a registry. -/
inductive BuildStep (P : Type) where
  | leaf (tag : String) (read : LeafReader P)
  | composite (tag : String) (junction : Junction)
  | allow (parent child : String)

variable {P : Type}

/-- A registry after one step. -/
def BuildStep.apply (r : Registry P) : BuildStep P → Registry P
  | leaf tag read => r.registerLeaf tag read
  | composite tag junction => r.registerComposite tag junction
  | allow parent child => r.allow parent child

/-- Steps whose leaves are read in this way. -/
def BuildStep.ReadsBy (read : LeafReader P) : BuildStep P → Prop
  | leaf _ read' => read' = read
  | composite _ _ => True
  | allow _ _ => True

namespace Registry

/-- A registry after several steps, the first of the list first. -/
def build (r : Registry P) (steps : List (BuildStep P)) : Registry P :=
  steps.foldl BuildStep.apply r

/-! ## 1. What a step changes -/

theorem find?_cons (tag name : String) (statement : Statement P)
    (statements : List (String × Statement P)) (permissions : List (String × List String)) :
    find? ⟨(tag, statement) :: statements, permissions⟩ name =
      if name = tag then some statement else find? ⟨statements, permissions⟩ name := by
  unfold find?
  rw [List.lookup_cons]
  by_cases h : name = tag
  · rw [if_pos h, beq_iff_eq.mpr h]
  · rw [if_neg h, beq_eq_false_iff_ne.mpr h]

@[simp] theorem find?_allowAll (r : Registry P) (parent : String) (children : List String)
    (name : String) : (r.allowAll parent children).find? name = r.find? name := rfl

theorem find?_insertComposite (r : Registry P) (tag : String) (junction : Junction)
    (name : String) : (r.insertComposite tag junction).find? name =
      if name = tag then some (.composite junction) else r.find? name := by
  unfold insertComposite
  rw [find?_allowAll, find?_cons]

theorem find?_registerLeaf (r : Registry P) (tag : String) (read : LeafReader P) (name : String) :
    (r.registerLeaf tag read).find? name =
      if name = tag ∧ tag ≠ Junction.all.tag ∧ tag ≠ Junction.any.tag then some (.leaf read)
      else r.find? name := by
  unfold registerLeaf
  by_cases h : tag = Junction.all.tag ∨ tag = Junction.any.tag
  · rw [if_pos h, if_neg fun hname => h.elim hname.2.1 hname.2.2]
  · rw [if_neg h, find?_cons]
    rw [not_or] at h
    simp only [ne_eq, h, not_false_eq_true, and_true]

theorem find?_registerComposite (r : Registry P) (tag : String) (junction : Junction)
    (name : String) : (r.registerComposite tag junction).find? name =
      if name = tag ∧ tag ∉ builtInTags then some (.composite junction) else r.find? name := by
  unfold registerComposite
  by_cases h : tag ∈ builtInTags
  · rw [if_pos h, if_neg fun hname => hname.2 h]
  · rw [if_neg h, find?_insertComposite]
    simp only [h, not_false_eq_true, and_true]

theorem mem_appendNew {tags others : List String} {tag : String} :
    tag ∈ appendNew tags others ↔ tag ∈ tags ∨ tag ∈ others := by
  induction others generalizing tags with
  | nil => simp [appendNew]
  | cons other rest ih =>
    rw [appendNew, ih, List.mem_cons]
    by_cases h : tags.contains other
    · rw [if_pos h]
      have hmem : other ∈ tags := List.contains_iff_mem.mp h
      constructor
      · intro h
        rcases h with htag | htag
        · exact .inl htag
        · exact .inr (.inr htag)
      · intro h
        rcases h with htag | rfl | htag
        · exact .inl htag
        · exact .inl hmem
        · exact .inr htag
    · rw [if_neg h, List.mem_append, List.mem_singleton, or_assoc]

/-- A step of permissions adds to one list, and changes no other. -/
theorem mem_allowedChildren_allowAll {r : Registry P} {parent name tag : String}
    {children : List String} : tag ∈ (r.allowAll parent children).allowedChildren name ↔
      tag ∈ r.allowedChildren name ∨ name = parent ∧ tag ∈ children := by
  unfold allowAll allowedChildren
  rw [List.lookup_cons]
  by_cases h : name = parent
  · subst h
    rw [beq_self_eq_true]
    show tag ∈ appendNew (r.allowedChildren name) children ↔ _
    rw [mem_appendNew]
    simp only [true_and]
    rfl
  · rw [beq_eq_false_iff_ne.mpr h]
    simp only [h, false_and, or_false]

/-! ## 2. Sequences of steps -/

/-- What every step preserves is preserved by all of them. -/
theorem build_preserves {holds : Registry P → Prop} {steps : List (BuildStep P)}
    (hstep : ∀ step ∈ steps, ∀ r, holds r → holds (step.apply r)) {r : Registry P} (hr : holds r) :
    holds (r.build steps) := by
  induction steps generalizing r with
  | nil => exact hr
  | cons step steps ih =>
    have hfirst := hstep step List.mem_cons_self r hr
    exact ih (fun s hs => hstep s (List.mem_cons_of_mem step hs)) hfirst

/-! ## 3. The built-in composites -/

/-- `allOf` and `anyOf` are what they are called, and the built-in tags may stand in them. -/
structure Canonical (r : Registry P) : Prop where
  find?_tag : ∀ j : Junction, r.find? j.tag = some (.composite j)
  builtIn_mem : ∀ j : Junction, ∀ tag ∈ builtInTags, tag ∈ r.allowedChildren j.tag

theorem tag_mem_builtInTags (j : Junction) : j.tag ∈ builtInTags := by
  cases j <;> decide

theorem Canonical.registerLeaf {r : Registry P} (h : Canonical r) (tag : String)
    (read : LeafReader P) : Canonical (r.registerLeaf tag read) := by
  refine ⟨fun j => ?_, ?_⟩
  · have hkept : ¬(j.tag = tag ∧ tag ≠ Junction.all.tag ∧ tag ≠ Junction.any.tag) := by
      intro h
      obtain ⟨rfl, hall, hany⟩ := h
      cases j with
      | all => exact hall rfl
      | any => exact hany rfl
    rw [find?_registerLeaf, if_neg hkept]
    exact h.find?_tag j
  · unfold Registry.registerLeaf
    split
    · exact h.builtIn_mem
    · exact h.builtIn_mem

theorem Canonical.registerComposite {r : Registry P} (h : Canonical r) (tag : String)
    (junction : Junction) : Canonical (r.registerComposite tag junction) := by
  refine ⟨fun j => ?_, fun j child hchild => ?_⟩
  · have hkept : ¬(j.tag = tag ∧ tag ∉ builtInTags) := by
      intro h
      obtain ⟨rfl, htag⟩ := h
      exact htag (tag_mem_builtInTags j)
    rw [find?_registerComposite, if_neg hkept]
    exact h.find?_tag j
  · unfold Registry.registerComposite
    split
    · exact h.builtIn_mem j child hchild
    · exact mem_allowedChildren_allowAll.mpr (.inl (h.builtIn_mem j child hchild))

theorem Canonical.allow {r : Registry P} (h : Canonical r) (parent child : String) :
    Canonical (r.allow parent child) :=
  ⟨h.find?_tag,
    fun j tag htag => mem_allowedChildren_allowAll.mpr (.inl (h.builtIn_mem j tag htag))⟩

theorem Canonical.apply {r : Registry P} (h : Canonical r) (step : BuildStep P) :
    Canonical (step.apply r) := by
  cases step with
  | leaf tag read => exact h.registerLeaf tag read
  | composite tag junction => exact h.registerComposite tag junction
  | allow parent child => exact h.allow parent child

theorem canonical_bare : Canonical (bare : Registry P) := by
  refine ⟨fun j => ?_, fun j tag htag => ?_⟩
  · cases j <;> rfl
  · cases j <;> exact htag

/-- **No sequence of steps breaks the built-in composites.** -/
theorem canonical_build {r : Registry P} (h : Canonical r) (steps : List (BuildStep P)) :
    Canonical (r.build steps) :=
  build_preserves (fun step _ _ hr => hr.apply step) h

theorem canonical_standard [LeafCodec P] : Canonical (standard : Registry P) :=
  canonical_bare.registerLeaf conditionTag LeafCodec.read

/-! ## 4. The leaves -/

/-- A step that is no leaf step named `condition` leaves `condition` as it is. -/
theorem find?_conditionTag_apply {step : BuildStep P} (h : ∀ read, step ≠ .leaf conditionTag read)
    (r : Registry P) : (step.apply r).find? conditionTag = r.find? conditionTag := by
  cases step with
  | leaf tag read =>
    have hkept : ¬(conditionTag = tag ∧ tag ≠ Junction.all.tag ∧ tag ≠ Junction.any.tag) := by
      intro h'
      obtain ⟨rfl, -⟩ := h'
      exact h read rfl
    show (r.registerLeaf tag read).find? conditionTag = _
    rw [find?_registerLeaf, if_neg hkept]
  | composite tag junction =>
    have hkept : ¬(conditionTag = tag ∧ tag ∉ builtInTags) := by
      intro h
      obtain ⟨rfl, htag⟩ := h
      exact htag List.mem_cons_self
    show (r.registerComposite tag junction).find? conditionTag = _
    rw [find?_registerComposite, if_neg hkept]
  | allow parent child => rfl

/-- Only a leaf step named `condition` changes how `condition` is read. -/
theorem find?_conditionTag_build {r : Registry P} {steps : List (BuildStep P)}
    (hsteps : ∀ read, .leaf conditionTag read ∉ steps) :
    (r.build steps).find? conditionTag = r.find? conditionTag := by
  have hstep : ∀ step ∈ steps, ∀ r' : Registry P, r'.find? conditionTag = r.find? conditionTag →
      (step.apply r').find? conditionTag = r.find? conditionTag := by
    intro step hmem r' hr'
    have hkept := find?_conditionTag_apply (fun read heq => hsteps read (heq ▸ hmem)) r'
    exact hkept.trans hr'
  exact build_preserves hstep rfl

/-- Every leaf of the registry is read in this way. -/
def LeavesReadBy (read : LeafReader P) (r : Registry P) : Prop :=
  ∀ tag read', r.find? tag = some (.leaf read') → read' = read

theorem leavesReadBy_bare (read : LeafReader P) : LeavesReadBy read bare := by
  intro tag read' h
  unfold bare at h
  rw [find?_insertComposite, find?_insertComposite] at h
  split at h
  · cases h
  · split at h
    · cases h
    · cases h

theorem LeavesReadBy.registerLeaf {read : LeafReader P} {r : Registry P} (h : LeavesReadBy read r)
    (tag : String) : LeavesReadBy read (r.registerLeaf tag read) := by
  intro name read' hfind
  rw [find?_registerLeaf] at hfind
  split at hfind
  · cases hfind
    rfl
  · exact h _ _ hfind

theorem LeavesReadBy.registerComposite {read : LeafReader P} {r : Registry P}
    (h : LeavesReadBy read r) (tag : String) (junction : Junction) :
    LeavesReadBy read (r.registerComposite tag junction) := by
  intro name read' hfind
  rw [find?_registerComposite] at hfind
  split at hfind
  · cases hfind
  · exact h _ _ hfind

theorem LeavesReadBy.apply {read : LeafReader P} {r : Registry P} (h : LeavesReadBy read r)
    {step : BuildStep P} (hstep : step.ReadsBy read) : LeavesReadBy read (step.apply r) := by
  cases step with
  | leaf tag read' =>
    obtain rfl : read' = read := hstep
    exact h.registerLeaf tag
  | composite tag junction => exact h.registerComposite tag junction
  | allow parent child => exact h

theorem leavesReadBy_standard [LeafCodec P] :
    LeavesReadBy LeafCodec.read (standard : Registry P) :=
  (leavesReadBy_bare _).registerLeaf conditionTag

/-- **Steps whose leaves are all read in one way make a registry whose leaves are.** -/
theorem leavesReadBy_build {read : LeafReader P} {r : Registry P} (h : LeavesReadBy read r)
    {steps : List (BuildStep P)} (hsteps : ∀ step ∈ steps, step.ReadsBy read) :
    LeavesReadBy read (r.build steps) :=
  build_preserves (fun step hmem _ hr => hr.apply (hsteps step hmem)) h

end Registry

end Verdict
