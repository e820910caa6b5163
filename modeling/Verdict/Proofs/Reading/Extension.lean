import Verdict.Gate
import Verdict.Proofs.Reading.Derivation
import Verdict.Proofs.Registry.Extension

/-!
# Reading under a registry that has grown

* `ReadError.RefusesTag`: the errors that speak against a tag;
* `followedBy_element`: an element is read alike under an extended registry, unless one of its tags
  was refused;
* `followedBy_read`, `followedBy_readWithin`, `followedBy_gate`: so are conditions, the children of
  an open element, and gates;
* **`reading_onlyAdds`**: what is read under a registry is read under every one that only adds to
  it.
-/

namespace Verdict

open Consumer Registry

variable {P : Type}

/-- The errors that speak against a tag: nothing is registered for it, or it may not stand where it
    stands. -/
def ReadError.RefusesTag : ReadError → Prop
  | .unknownStatement _ => True
  | .misplaced _ _ _ => True
  | .document _ => False
  | .leaf _ _ => False
  | .gateArity _ _ => False
  | .tooDeep _ => False

namespace Reader

variable {r r' : Registry P} {depth : Nat}

/-- Reads alike, unless a tag was refused. -/
abbrev ReadsAlike {α : Type} (x y : TokenReader ReadError α) : Prop :=
  FollowedBy ReadError.RefusesTag x y

theorem followedBy_statement (h : ExtendedBy r r') (tag : String) :
    ReadsAlike (statement ⟨r, depth⟩ tag) (statement ⟨r', depth⟩ tag) := by
  unfold statement
  cases hfind : r.find? tag with
  | none => exact FollowedBy.fail trivial _
  | some found =>
    rw [h.find?_eq tag found hfind]
    exact FollowedBy.refl _

/-- One item of a body is read alike where no less is permitted and children are read alike. -/
theorem followedBy_item (h : ExtendedBy r r') (parent : String) {permitted permitted' : List String}
    (hpermitted : permitted ⊆ permitted')
    {child child' : LeafElement → TokenReader ReadError (Condition P)}
    (hchild : ∀ e, ReadsAlike (child e) (child' e)) (token : Token) :
    ReadsAlike (item ⟨r, depth⟩ parent permitted child token)
      (item ⟨r', depth⟩ parent permitted' child' token) := by
  cases token with
  | opening name attributes =>
    refine FollowedBy.bind (followedBy_statement h name) fun _ => ?_
    by_cases hname : name ∈ permitted
    · rw [if_pos (List.contains_iff_mem.mpr hname),
        if_pos (List.contains_iff_mem.mpr (hpermitted hname))]
      exact FollowedBy.bind (hchild _) fun _ => FollowedBy.refl _
    · rw [if_neg fun hcontains => hname (List.contains_iff_mem.mp hcontains)]
      exact FollowedBy.fail trivial _
  | text content => exact FollowedBy.refl _
  | closing => exact FollowedBy.refl _

theorem followedBy_children (h : ExtendedBy r r') (parent : String)
    {permitted permitted' : List String} (hpermitted : permitted ⊆ permitted')
    {child child' : LeafElement → TokenReader ReadError (Condition P)}
    (hchild : ∀ e, ReadsAlike (child e) (child' e)) :
    ReadsAlike (children ⟨r, depth⟩ parent permitted child)
      (children ⟨r', depth⟩ parent permitted' child') := by
  rw [children_eq, children_eq]
  exact FollowedBy.bind (FollowedBy.items _ (followedBy_item h parent hpermitted hchild))
    fun _ => FollowedBy.refl _

/-- **An element is read alike under an extended registry, unless one of its tags was refused.** -/
theorem followedBy_element (h : ExtendedBy r r') (levels : Nat) (e : LeafElement) :
    ReadsAlike (element ⟨r, depth⟩ levels e) (element ⟨r', depth⟩ levels e) := by
  induction levels generalizing e with
  | zero => exact FollowedBy.refl _
  | succ levels ih =>
    refine FollowedBy.bind (followedBy_statement h e.tag) fun statement => ?_
    cases statement with
    | composite junction =>
      have hpermitted := h.allowedChildren_subset e.tag
      exact FollowedBy.bind (followedBy_children h e.tag hpermitted ih) fun _ => FollowedBy.refl _
    | leaf read => exact FollowedBy.refl _

theorem followedBy_read (h : ExtendedBy r r') :
    ReadsAlike (read ⟨r, depth⟩) (read ⟨r', depth⟩) := by
  refine FollowedBy.bind (FollowedBy.refl _) fun _ => FollowedBy.bind (FollowedBy.refl _) ?_
  intro token
  rcases token with _ | ⟨name, attributes⟩ | content | _
  · exact FollowedBy.refl _
  · exact followedBy_element h depth ⟨name, attributes⟩
  · exact FollowedBy.refl _
  · exact FollowedBy.refl _

/-- What is permitted in the element that is already open is given to both readers. -/
theorem followedBy_readWithin (h : ExtendedBy r r') (parent : String) (permitted : List String) :
    ReadsAlike (readWithin ⟨r, depth⟩ parent permitted) (readWithin ⟨r', depth⟩ parent permitted) :=
  followedBy_children h parent (List.Subset.refl permitted) (followedBy_element h (depth - 1))

theorem followedBy_gate (h : ExtendedBy r r') :
    ReadsAlike (Gate.read ⟨r, depth⟩) (Gate.read ⟨r', depth⟩) := by
  refine FollowedBy.bind (FollowedBy.refl _) fun _ => FollowedBy.bind (FollowedBy.refl _) ?_
  intro token
  rcases token with _ | ⟨name, attributes⟩ | content | _
  · exact FollowedBy.refl _
  · dsimp only
    cases GateKind.ofTag? name with
    | none => exact FollowedBy.refl _
    | some kind =>
      exact FollowedBy.bind (followedBy_readWithin h name builtInTags) fun _ => FollowedBy.refl _
  · exact FollowedBy.refl _
  · exact FollowedBy.refl _

end Reader

/-- **Extending a registry is conservative.** What is read under a registry -- a condition, the
    children of an open element, a gate -- is read under every registry that only adds to it, from
    every source and with the same tokens left. -/
theorem reading_onlyAdds {r : Registry P} {steps : List (BuildStep P)} (h : r.OnlyAdds steps)
    (depth : Nat) (s rest : TokenSource) :
    let before : Reader P := ⟨r, depth⟩
    let after : Reader P := ⟨r.build steps, depth⟩
    (∀ c, before.read.run s = (.ok c, rest) → after.read.run s = (.ok c, rest)) ∧
      (∀ parent permitted cs, (before.readWithin parent permitted).run s = (.ok cs, rest) →
        (after.readWithin parent permitted).run s = (.ok cs, rest)) ∧
      ∀ g, (Gate.read before).run s = (.ok g, rest) → (Gate.read after).run s = (.ok g, rest) := by
  have hextended := extendedBy_build h
  refine ⟨fun c hc => ?_, fun parent permitted cs hcs => ?_, fun g hg => ?_⟩
  · exact (Reader.followedBy_read hextended).run_eq hc
  · exact (Reader.followedBy_readWithin hextended parent permitted).run_eq hcs
  · exact (Reader.followedBy_gate hextended).run_eq hg

/-- A composite in a composite, and a gate around it, under a registry that is built on. The first
    two steps do nothing, since the tags are built in. -/
theorem reading_onlyAdds_ignored_steps :
    let steps : List (BuildStep TextMatcher) := [.leaf "allOf" TextMatcher.readElement,
      .composite "condition" .any, .composite "group" .any, .leaf "test" TextMatcher.readElement,
      .allow "allOf" "group", .allow "group" "test"]
    let before : Reader TextMatcher := ⟨.standard, 3⟩
    let after : Reader TextMatcher := ⟨Registry.standard.build steps, 3⟩
    let tokens : List Token := [.opening "if" [], .text "\n", .opening "allOf" [], .text " ",
      .opening "condition" [], .closing, .closing, .closing, .text "x"]
    Registry.standard.OnlyAdds steps ∧
      (Gate.read before).run (.ofTokens tokens) =
        (.ok ⟨.whenTrue, .allOf [.leaf .any]⟩, .ofTokens [.text "x"]) ∧
      (Gate.read after).run (.ofTokens tokens) =
        (.ok ⟨.whenTrue, .allOf [.leaf .any]⟩, .ofTokens [.text "x"]) := by
  intro steps before after tokens
  have hsteps : Registry.standard.OnlyAdds steps :=
    ⟨.inr (.inl rfl), .inr (by decide), .inl rfl, .inl rfl, trivial, trivial, trivial⟩
  have hgate : (Gate.read before).run (.ofTokens tokens) =
      (.ok ⟨.whenTrue, .allOf [.leaf .any]⟩, .ofTokens [.text "x"]) := by
    with_unfolding_all rfl
  exact ⟨hsteps, hgate, (reading_onlyAdds hsteps 3 _ _).2.2 _ hgate⟩

end Verdict
