import Verdict.Matcher.Leaf
import Verdict.Proofs.Condition.Basic
import Verdict.Proofs.Reading.Element

/-!
# The limit on levels

Two readers with the same registry differ in the number of levels that they take. Levels are counted
by the reader on its way down and by `Condition.depth` on the tree that it answers; here the two
counts meet.

* `depth_le_of_run_element`: a tree that is read has no more levels than the reader had left;
* **`run_element_of_depth_le`**: so many levels are enough to read it, and nothing else counts;
* `followedBy_element_of_le`: a reader with fewer levels runs as one with more, unless it finds the
  tree too deep;
* `failsWith_element`: the limit that an error names is that of the reader;
* **`read_limit`**: lowering the limit changes nothing but which trees are too deep.
-/

namespace Verdict

open Consumer Condition

namespace Reader

variable {P : Type} {registry : Registry P} {limit limit' levels levels' : Nat}

/-! ## 1. Trees that are read -/

section Children

variable {expected parent : String} {permitted : List String}
  {child child' : LeafElement → TokenReader ReadError (Condition P)} {s rest : TokenSource}
  {groups : List (List (Condition P))} {holds : Condition P → Prop}

/-- What holds of every condition that `child` answers holds of the children of a body. -/
theorem forall_of_gathers_item {r : Reader P}
    (hchild : ∀ e s c rest, (child e).run s = (.ok c, rest) → holds c)
    (h : Gathers (TokenReader.nextOr expected) (r.item parent permitted child) s groups rest) :
    ∀ c ∈ groups.flatten, holds c := by
  induction h with
  | done taken ended => simp
  | more taken gave _ ih =>
    intro c hc
    rcases Reader.run_item_some_iff.mp gave with
      ⟨content, -, -, rfl, -⟩ | ⟨name, attributes, first, -, -, -, hfirst, rfl⟩
    · exact ih c hc
    · rcases List.mem_cons.mp hc with rfl | hc
      · exact hchild _ _ _ _ hfirst
      · exact ih c hc

/-- A body is read by another reader of the same registry if its children are. -/
theorem gathers_item_of_child (limit' : Nat)
    (hchild : ∀ e s c rest, holds c → (child e).run s = (.ok c, rest) →
      (child' e).run s = (.ok c, rest))
    (h : Gathers (TokenReader.nextOr expected) (item ⟨registry, limit⟩ parent permitted child) s
      groups rest) (hgroups : ∀ c ∈ groups.flatten, holds c) :
    Gathers (TokenReader.nextOr expected) (item ⟨registry, limit'⟩ parent permitted child') s
      groups rest := by
  induction h with
  | done taken ended =>
    exact .done taken (Reader.run_item_none_iff.mpr (Reader.run_item_none_iff.mp ended))
  | more taken gave _ ih =>
    rcases Reader.run_item_some_iff.mp gave with
      hblank | ⟨name, attributes, first, htoken, hfind, hpermitted, hfirst, rfl⟩
    · obtain ⟨content, -, -, rfl, -⟩ := id hblank
      exact .more taken (Reader.run_item_some_iff.mpr (.inl hblank)) (ih hgroups)
    · have hread := hchild _ _ _ _ (hgroups first List.mem_cons_self) hfirst
      exact .more taken (Reader.run_item_some_iff.mpr
        (.inr ⟨name, attributes, first, htoken, hfind, hpermitted, hread, rfl⟩))
        (ih fun c hc => hgroups c (List.mem_cons_of_mem _ hc))

end Children

/-- A tree that is read has no more levels than the reader had left. -/
theorem depth_le_of_run_element {r : Reader P} {e : LeafElement} {s rest : TokenSource}
    {c : Condition P} (h : (r.element levels e).run s = (.ok c, rest)) : c.depth ≤ levels := by
  induction levels generalizing e s rest c with
  | zero => exact absurd h run_element_zero_ne
  | succ levels ih =>
    rcases run_element_succ_iff.mp h with ⟨junction, cs, -, hrun, rfl⟩ | ⟨_, p, _, -, -, -, rfl⟩
    · obtain ⟨groups, hgroups, rfl⟩ := run_children_iff.mp hrun
      have hdepth : ∀ c ∈ groups.flatten, c.depth ≤ levels :=
        forall_of_gathers_item (fun _ _ _ _ hc => ih hc) hgroups
      exact depth_composite_le_iff.mpr hdepth
    · exact Nat.le_add_left 1 levels

/-- **A tree that is read with some levels is read with as many as it has**, whatever the limit of
    the reader is. -/
theorem run_element_of_depth_le {e : LeafElement} {s rest : TokenSource} {c : Condition P}
    (h : (element ⟨registry, limit⟩ levels e).run s = (.ok c, rest)) (hdepth : c.depth ≤ levels') :
    (element ⟨registry, limit'⟩ levels' e).run s = (.ok c, rest) := by
  induction levels generalizing levels' e s rest c with
  | zero => exact absurd h run_element_zero_ne
  | succ levels ih =>
    obtain ⟨below, rfl⟩ := Nat.exists_eq_add_of_le' (Nat.le_trans (depth_pos c) hdepth)
    rcases run_element_succ_iff.mp h with
      ⟨junction, cs, hfind, hrun, rfl⟩ | ⟨read, p, s₁, hfind, hread, hclose, rfl⟩
    · obtain ⟨groups, hgroups, rfl⟩ := run_children_iff.mp hrun
      have hchild : ∀ e s c rest, c.depth ≤ below →
          (element ⟨registry, limit⟩ levels e).run s = (.ok c, rest) →
          (element ⟨registry, limit'⟩ below e).run s = (.ok c, rest) :=
        fun _ _ _ _ hc hrun => ih hrun hc
      have hchildren := gathers_item_of_child limit' hchild hgroups
        (depth_composite_le_iff.mp hdepth)
      exact run_element_succ_iff.mpr (.inl ⟨junction, groups.flatten, hfind,
        run_children_iff.mpr ⟨groups, hchildren, rfl⟩, rfl⟩)
    · exact run_element_succ_iff.mpr (.inr ⟨read, p, s₁, hfind, hread, hclose, rfl⟩)

/-! ## 2. Runs with fewer levels -/

section FewerLevels

variable {excused : ReadError → Prop}

/-- One item of a body is followed by that of another reader of the same registry if the child is.
    -/
theorem followedBy_item_of_child (parent : String) (permitted : List String)
    {child child' : LeafElement → TokenReader ReadError (Condition P)}
    (hchild : ∀ e, FollowedBy excused (child e) (child' e)) (token : Token) :
    FollowedBy excused (item ⟨registry, limit⟩ parent permitted child token)
      (item ⟨registry, limit'⟩ parent permitted child' token) := by
  cases token with
  | opening name attributes =>
    refine FollowedBy.bind (FollowedBy.refl (statement ⟨registry, limit⟩ name)) fun _ => ?_
    by_cases hname : permitted.contains name = true
    · rw [if_pos hname, if_pos hname]
      exact FollowedBy.bind (hchild _) fun _ => FollowedBy.refl _
    · rw [if_neg hname, if_neg hname]
      exact FollowedBy.refl _
  | text content => exact FollowedBy.refl _
  | closing => exact FollowedBy.refl _

theorem followedBy_children_of_child (parent : String) (permitted : List String)
    {child child' : LeafElement → TokenReader ReadError (Condition P)}
    (hchild : ∀ e, FollowedBy excused (child e) (child' e)) :
    FollowedBy excused (children ⟨registry, limit⟩ parent permitted child)
      (children ⟨registry, limit'⟩ parent permitted child') := by
  rw [children_eq, children_eq]
  exact FollowedBy.bind
    (FollowedBy.items _ (followedBy_item_of_child parent permitted hchild))
    fun _ => FollowedBy.refl _

/-- **A reader with fewer levels runs as one with more**, unless it finds the element too deep. -/
theorem followedBy_element_of_le (hle : levels ≤ levels') (e : LeafElement) :
    FollowedBy (· = .tooDeep limit) (element ⟨registry, limit⟩ levels e)
      (element ⟨registry, limit'⟩ levels' e) := by
  induction levels generalizing levels' e with
  | zero =>
    intro s
    exact .inr ⟨_, s, rfl, rfl⟩
  | succ levels ih =>
    obtain ⟨below, rfl⟩ := Nat.exists_eq_add_of_le' (Nat.le_trans (Nat.le_add_left 1 _) hle)
    refine FollowedBy.bind (FollowedBy.refl (statement ⟨registry, limit⟩ e.tag)) ?_
    intro statement
    cases statement with
    | composite junction =>
      have hchild : ∀ e, FollowedBy _ (element ⟨registry, limit⟩ levels e)
          (element ⟨registry, limit'⟩ below e) := ih (Nat.le_of_succ_le_succ hle)
      exact FollowedBy.bind (followedBy_children_of_child _ _ hchild) fun _ => FollowedBy.refl _
    | leaf read => exact FollowedBy.refl _

theorem followedBy_read_of_le (hle : limit ≤ limit') :
    FollowedBy (· = .tooDeep limit) (read ⟨registry, limit⟩) (read ⟨registry, limit'⟩) := by
  refine FollowedBy.bind (FollowedBy.refl _) fun _ => FollowedBy.bind (FollowedBy.refl _) ?_
  intro token
  rcases token with _ | ⟨name, attributes⟩ | content | _
  · exact FollowedBy.refl _
  · exact followedBy_element_of_le hle ⟨name, attributes⟩
  · exact FollowedBy.refl _
  · exact FollowedBy.refl _

end FewerLevels

/-! ## 3. The limit in an error -/

/-- The errors that name this limit or none. -/
def NamesLimit (limit : Nat) (e : ReadError) : Prop := ∀ named, e = .tooDeep named → named = limit

theorem namesLimit_document (e : DocumentError) : NamesLimit limit (.document e) := by
  intro named h
  cases h

theorem failsWith_lift {α : Type} (x : TokenReader DocumentError α) :
    FailsWith (NamesLimit limit) (liftM x : TokenReader ReadError α) :=
  FailsWith.mapError namesLimit_document x

theorem failsWith_statement (r : Reader P) (tag : String) :
    FailsWith (NamesLimit limit) (r.statement tag) := by
  unfold statement
  split
  · exact FailsWith.pure _
  · exact FailsWith.fail fun named h => by cases h

theorem failsWith_nextOr (expected : String) :
    FailsWith (NamesLimit limit) (TokenReader.nextOr expected) := by
  intro s e rest h
  unfold TokenReader.nextOr at h
  dsimp only at h
  split at h
  · cases h
    exact namesLimit_document _
  · cases h
    exact namesLimit_document _
  · cases h

theorem failsWith_children (r : Reader P) (parent : String) (permitted : List String)
    {child : LeafElement → TokenReader ReadError (Condition P)}
    (hchild : ∀ e, FailsWith (NamesLimit limit) (child e)) :
    FailsWith (NamesLimit limit) (r.children parent permitted child) := by
  rw [children_eq]
  refine FailsWith.bind (FailsWith.items _ (failsWith_nextOr _) fun token => ?_)
    fun _ => FailsWith.pure _
  cases token with
  | opening name attributes =>
    refine FailsWith.bind (failsWith_statement r name) fun _ => ?_
    split
    · exact FailsWith.bind (hchild _) fun _ => FailsWith.pure _
    · exact FailsWith.fail fun named h => by cases h
  | text content =>
    by_cases hblank : Text.isBlank content = true
    · rw [item, if_pos hblank]
      exact FailsWith.pure _
    · rw [item, if_neg hblank]
      exact FailsWith.fail (namesLimit_document _)
  | closing => exact FailsWith.pure _

/-- **The limit that an error names is that of the reader.** -/
theorem failsWith_element (r : Reader P) (levels : Nat) (e : LeafElement) :
    FailsWith (NamesLimit r.maxDepth) (r.element levels e) := by
  induction levels generalizing e with
  | zero => exact FailsWith.fail fun named h => (ReadError.tooDeep.inj h).symm
  | succ levels ih =>
    refine FailsWith.bind (failsWith_statement r e.tag) fun statement => ?_
    cases statement with
    | composite junction =>
      exact FailsWith.bind (failsWith_children r _ _ ih) fun _ => FailsWith.pure _
    | leaf read =>
      refine FailsWith.bind (FailsWith.mapError ?_ _) fun _ =>
        FailsWith.bind (failsWith_lift _) fun _ => FailsWith.pure _
      intro source named h
      cases h

theorem failsWith_read (r : Reader P) : FailsWith (NamesLimit r.maxDepth) r.read := by
  refine FailsWith.bind (failsWith_lift _) fun _ => FailsWith.bind (failsWith_lift _) ?_
  intro token
  rcases token with _ | ⟨name, attributes⟩ | content | _
  · exact FailsWith.fail (namesLimit_document _)
  · exact failsWith_element r r.maxDepth ⟨name, attributes⟩
  · exact FailsWith.fail (namesLimit_document _)
  · exact FailsWith.fail (namesLimit_document _)

/-! ## 4. The limit -/

/-- A tree that has too many levels for a reader is found too deep by it. -/
theorem exists_run_element_tooDeep (limit : Nat) {e : LeafElement} {s rest : TokenSource}
    {c : Condition P}
    (h : (element ⟨registry, limit'⟩ levels' e).run s = (.ok c, rest)) (hdepth : levels < c.depth) :
    ∃ rest', (element ⟨registry, limit⟩ levels e).run s = (.error (.tooDeep limit), rest') := by
  have hle : levels ≤ levels' :=
    Nat.le_of_lt (Nat.lt_of_lt_of_le hdepth (depth_le_of_run_element h))
  have hruns : FollowedBy _ (element ⟨registry, limit⟩ levels e)
      (element ⟨registry, limit'⟩ levels' e) := followedBy_element_of_le hle e
  rcases hruns s with heq | ⟨_, rest', herror, rfl⟩
  · exact absurd (depth_le_of_run_element (heq.symm.trans h)) (Nat.not_le_of_lt hdepth)
  · exact ⟨rest', herror⟩

end Reader

/-- **The limit on levels is exact.** Where a reader answers a tree, one with a lower limit answers
    the same tree and leaves the same tokens if the tree has no more levels than this limit, and
    finds it too deep otherwise. Where it finds the tree too deep, so does the one with the lower
    limit. Where it fails with another error, the other one fails with this error or finds the tree
    too deep. -/
theorem read_limit {P : Type} (registry : Registry P) {lower limit : Nat} (hle : lower ≤ limit)
    (s : TokenSource) :
    let read (limit : Nat) := (Reader.read ⟨registry, limit⟩).run s
    let lowerTooDeep := ∃ rest, read lower = (.error (.tooDeep lower), rest)
    (∀ c rest, read limit = (.ok c, rest) →
      (c.depth ≤ lower → read lower = (.ok c, rest)) ∧ (lower < c.depth → lowerTooDeep)) ∧
    (∀ named rest, read limit = (.error (.tooDeep named), rest) → named = limit ∧ lowerTooDeep) ∧
    ∀ e rest, read limit = (.error e, rest) → (∀ named, e ≠ .tooDeep named) →
      read lower = (.error e, rest) ∨ lowerTooDeep := by
  intro read lowerTooDeep
  have hruns : read lower = read limit ∨ lowerTooDeep := by
    have hfollowed : FollowedBy _ (Reader.read ⟨registry, lower⟩) (Reader.read ⟨registry, limit⟩) :=
      Reader.followedBy_read_of_le hle
    rcases hfollowed s with heq | ⟨_, rest, h, rfl⟩
    · exact .inl heq.symm
    · exact .inr ⟨rest, h⟩
  refine ⟨fun c rest hc => ⟨fun hdepth => ?_, fun hdepth => ?_⟩, fun named rest h => ?_,
    fun e rest h _ => ?_⟩
  · obtain ⟨s₁, name, attributes, s₂, hblanks, hnext, hrun⟩ := Reader.run_read_iff.mp hc
    exact Reader.run_read_iff.mpr ⟨s₁, name, attributes, s₂, hblanks, hnext,
      Reader.run_element_of_depth_le hrun hdepth⟩
  · rcases hruns with heq | htooDeep
    · obtain ⟨_, _, _, _, -, -, hrun⟩ := Reader.run_read_iff.mp (heq.trans hc)
      exact absurd (Reader.depth_le_of_run_element hrun) (Nat.not_le_of_lt hdepth)
    · exact htooDeep
  · have hnamed : named = limit := Reader.failsWith_read ⟨registry, limit⟩ s _ rest h named rfl
    refine ⟨hnamed, ?_⟩
    rcases hruns with heq | htooDeep
    · have hlower : read lower = (.error (.tooDeep named), rest) := heq.trans h
      have hnamed' : named = lower := Reader.failsWith_read ⟨registry, lower⟩ s _ rest hlower _ rfl
      exact ⟨rest, hnamed' ▸ hlower⟩
    · exact htooDeep
  · rcases hruns with heq | htooDeep
    · exact .inl (heq.trans h)
    · exact .inr htooDeep

/-- Limits of two and of three levels, on documents of two, three and four levels and on one with an
    unknown tag. -/
theorem read_limit_two_three :
    let read (limit : Nat) (tokens : List Token) :=
      (Reader.read ⟨(Registry.standard : Registry TextMatcher), limit⟩).run (.ofTokens tokens)
    let one : List Token := [.opening "condition" [], .closing]
    let two : List Token := [.opening "allOf" []] ++ one ++ [.closing]
    let three : List Token := [.opening "anyOf" []] ++ one ++ two ++ [.closing]
    let four : List Token := [.opening "anyOf" []] ++ three ++ [.closing]
    let unknown : List Token := [.opening "anyOf" []] ++ one ++ [.opening "test" [], .closing]
    2 ≤ 3 ∧
      (read 3 two = (.ok (allOf [leaf .any]), .ofTokens []) ∧
        read 2 two = (.ok (allOf [leaf .any]), .ofTokens [])) ∧
      (read 3 three = (.ok (anyOf [leaf .any, allOf [leaf .any]]), .ofTokens []) ∧
        ∃ rest, read 2 three = (.error (.tooDeep 2), rest)) ∧
      (read 3 four = (.error (.tooDeep 3), .ofTokens (List.replicate 4 .closing)) ∧
        ∃ rest, read 2 four = (.error (.tooDeep 2), rest)) ∧
      read 3 unknown = (.error (.unknownStatement "test"), .ofTokens [.closing]) ∧
        (read 2 unknown = (.error (.unknownStatement "test"), .ofTokens [.closing]) ∨
          ∃ rest, read 2 unknown = (.error (.tooDeep 2), rest)) := by
  intro read one two three four unknown
  have hle : 2 ≤ 3 := by decide
  have htwo : read 3 two = (.ok (allOf [leaf .any]), .ofTokens []) := by with_unfolding_all rfl
  have hthree : read 3 three = (.ok (anyOf [leaf .any, allOf [leaf .any]]), .ofTokens []) := by
    with_unfolding_all rfl
  have hfour : read 3 four =
      (.error (.tooDeep 3), .ofTokens (List.replicate 4 .closing)) := by
    with_unfolding_all rfl
  have hunknown : read 3 unknown = (.error (.unknownStatement "test"), .ofTokens [.closing]) := by
    with_unfolding_all rfl
  have hdepth : (allOf [leaf TextMatcher.any]).depth ≤ 2 := by simp [depth, maxDepth]
  have hdeeper : 2 < (anyOf [leaf TextMatcher.any, allOf [leaf .any]]).depth := by
    simp [depth, maxDepth]
  refine ⟨hle, ⟨htwo, ?_⟩, ⟨hthree, ?_⟩, ⟨hfour, ?_⟩, hunknown, ?_⟩
  · exact ((read_limit Registry.standard hle (.ofTokens two)).1 _ _ htwo).1 hdepth
  · exact ((read_limit Registry.standard hle (.ofTokens three)).1 _ _ hthree).2 hdeeper
  · exact ((read_limit Registry.standard hle (.ofTokens four)).2.1 _ _ hfour).2
  · refine (read_limit Registry.standard hle (.ofTokens unknown)).2.2 _ _ hunknown ?_
    intro named h
    cases h

end Verdict
