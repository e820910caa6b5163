import Verdict.Matcher.Leaf
import Verdict.Proofs.Reading.Element
import Verdict.Proofs.Reading.Source
import Verdict.Proofs.Registry.History

/-!
# The conditions that a registry defines

Under a registry whose leaves are text matchers, the conditions of a document are given by rules:

    leaf      := opening text* closing
    composite := opening (blank text | child)* closing

* `TextMatcher.ofElement`: the matcher that attributes and text make;
* `Items`, `DerivesElement`: one level of the rules;
* `Derives`: an element with a bound on its levels, and the condition that it stands for;
* `run_leaf_iff`: a leaf is read by its rule;
* `readsOnly_element`, `readsAll_element`: what is read as an element is derived, and all that is
  derived is read;
* **`read_eq_ok_iff_derives`**: the reader accepts exactly the elements of the rules, with blank
  text before them.
-/

namespace Verdict

open Consumer Registry

/-- The matcher that the attributes of an element and the text in it make. -/
def TextMatcher.ofElement (e : LeafElement) (pattern : Option String) :
    Except LeafError TextMatcher := do
  let options ← readOptions e
  (MatchOptions.compile { options with pattern }).mapError .matcher

/-! ## 1. The rules -/

/-- The items of the composite `parent` and its children, where `child` derives a child. -/
inductive Items (r : Registry TextMatcher) (parent : String)
    (child : List Token → Condition TextMatcher → Prop) :
    List Token → List (Condition TextMatcher) → Prop
  | nil : Items r parent child [] []
  | blank {content : String} {items : List Token} {cs : List (Condition TextMatcher)}
      (hblank : Text.isBlank content = true) (hitems : Items r parent child items cs) :
      Items r parent child (.text content :: items) cs
  | element {name : String} {attributes : List Attribute} {body items : List Token}
      {c : Condition TextMatcher} {cs : List (Condition TextMatcher)}
      (hallowed : name ∈ r.allowedChildren parent) (hc : child (.opening name attributes :: body) c)
      (hitems : Items r parent child items cs) :
      Items r parent child (.opening name attributes :: body ++ items) (c :: cs)

/-- An element and its condition, where `child` derives a child of a composite. -/
inductive DerivesElement (r : Registry TextMatcher)
    (child : List Token → Condition TextMatcher → Prop) : List Token → Condition TextMatcher → Prop
  | leaf {name : String} {attributes : List Attribute} {texts : List String} {p : TextMatcher}
      (hfind : r.find? name = some (.leaf TextMatcher.readElement))
      (hp : TextMatcher.ofElement ⟨name, attributes⟩ (joinedTexts texts) = .ok p) :
      DerivesElement r child (.opening name attributes :: texts.map .text ++ [.closing]) (.leaf p)
  | composite {name : String} {attributes : List Attribute} {junction : Junction}
      {items : List Token} {cs : List (Condition TextMatcher)}
      (hfind : r.find? name = some (.composite junction)) (hitems : Items r name child items cs) :
      DerivesElement r child (.opening name attributes :: items ++ [.closing])
        (.composite junction cs)

/-- An element of at most so many levels and its condition. -/
def Derives (r : Registry TextMatcher) : Nat → List Token → Condition TextMatcher → Prop
  | 0, _, _ => False
  | levels + 1, tokens, c => DerivesElement r (Derives r levels) tokens c

/-- A derived element begins with a tag that is registered. -/
theorem exists_find?_of_derivesElement {r : Registry TextMatcher}
    {child : List Token → Condition TextMatcher → Prop} {name : String}
    {attributes : List Attribute} {body : List Token} {c : Condition TextMatcher}
    (h : DerivesElement r child (.opening name attributes :: body) c) :
    ∃ statement, r.find? name = some statement := by
  cases h with
  | leaf hfind => exact ⟨_, hfind⟩
  | composite hfind => exact ⟨_, hfind⟩

theorem exists_find?_of_derives {r : Registry TextMatcher} {levels : Nat} {name : String}
    {attributes : List Attribute} {body : List Token} {c : Condition TextMatcher}
    (h : Derives r levels (.opening name attributes :: body) c) :
    ∃ statement, r.find? name = some statement := by
  cases levels with
  | zero => exact h.elim
  | succ levels => exact exists_find?_of_derivesElement h

theorem exists_opening_of_derives {r : Registry TextMatcher} {levels : Nat} {element : List Token}
    {c : Condition TextMatcher} (h : Derives r levels element c) :
    ∃ name attributes body, element = .opening name attributes :: body := by
  cases levels with
  | zero => exact h.elim
  | succ levels =>
    cases h with
    | leaf => exact ⟨_, _, _, rfl⟩
    | composite => exact ⟨_, _, _, rfl⟩

/-! ## 2. Leaves -/

theorem ofElement_eq_ok_iff {e : LeafElement} {pattern : Option String} {p : TextMatcher} :
    TextMatcher.ofElement e pattern = .ok p ↔
      ∃ options, TextMatcher.readOptions e = .ok options ∧
        (MatchOptions.compile { options with pattern }).mapError LeafError.matcher = .ok p := by
  unfold TextMatcher.ofElement
  cases TextMatcher.readOptions e with
  | error err => simp [bind, Except.bind]
  | ok options => simp [bind, Except.bind]

/-- A leaf takes the texts at the start of its body. -/
theorem run_readElement_append {e : LeafElement} {texts : List String} {rest : List Token}
    (hrest : ∀ token, rest.head? = some token → token.text? = none) {p : TextMatcher}
    {s : TokenSource} :
    (TextMatcher.readElement e).run (.ofTokens (texts.map .text ++ rest)) = (.ok p, s) ↔
      TextMatcher.ofElement e (joinedTexts texts) = .ok p ∧ s = .ofTokens rest := by
  have htext : (liftM LeafElement.text : TokenReader LeafError (Option String)).run
      (.ofTokens (texts.map .text ++ rest)) = (.ok (joinedTexts texts), .ofTokens rest) :=
    run_mapError_eq_ok_iff.mpr (TokenReader.run_text hrest)
  unfold TextMatcher.readElement
  simp only [run_bind_eq_ok_iff, run_ofExcept_eq_ok_iff, ofElement_eq_ok_iff]
  constructor
  · intro h
    obtain ⟨options, _, ⟨hoptions, rfl⟩, pattern, _, hpattern, hp, rfl⟩ := h
    rw [htext, Prod.mk.injEq, Except.ok.injEq] at hpattern
    obtain ⟨rfl, rfl⟩ := hpattern
    exact ⟨⟨options, hoptions, hp⟩, rfl⟩
  · intro h
    obtain ⟨⟨options, hoptions, hp⟩, rfl⟩ := h
    exact ⟨options, _, ⟨hoptions, rfl⟩, _, _, htext, hp, rfl⟩

/-- A leaf is read up to its end where its body is texts only. -/
theorem run_leaf_iff {e : LeafElement} {tokens : List Token} {p : TextMatcher} {s : TokenSource} :
    (∃ s₁, (TextMatcher.readElement e).run (.ofTokens tokens) = (.ok p, s₁) ∧
        (TokenReader.expectClose e.tag).run s₁ = (.ok (), s)) ↔
      ∃ texts rest, tokens = texts.map .text ++ .closing :: rest ∧
        TextMatcher.ofElement e (joinedTexts texts) = .ok p ∧ s = .ofTokens rest := by
  constructor
  · intro h
    obtain ⟨s₁, hread, hclose⟩ := h
    obtain ⟨texts, behind, rfl, hbehind⟩ := TokenReader.exists_texts_append tokens
    obtain ⟨hp, rfl⟩ := (run_readElement_append hbehind).mp hread
    obtain ⟨rest, hdrop, rfl⟩ := TokenReader.run_expectClose_iff.mp hclose
    -- All texts are taken, so no blank text is left before the end.
    obtain ⟨-, hnone⟩ := takeWhile_dropWhile_of_refused fun token htoken =>
      Token.isBlankText_of_text?_eq_none (hbehind token htoken)
    rw [hnone] at hdrop
    exact ⟨texts, rest, by rw [hdrop], hp, rfl⟩
  · intro h
    obtain ⟨texts, rest, rfl, hp, rfl⟩ := h
    have hend : ∀ token, (Token.closing :: rest).head? = some token → token.text? = none :=
      fun token htoken => Option.some.inj htoken ▸ rfl
    exact ⟨_, (run_readElement_append hend).mpr ⟨hp, rfl⟩,
      TokenReader.run_expectClose_iff.mpr ⟨rest, rfl, rfl⟩⟩

/-! ## 3. Elements -/

/-- What the step `child` reads is derived. -/
def ReadsOnly (child : LeafElement → TokenReader ReadError (Condition TextMatcher))
    (derives : List Token → Condition TextMatcher → Prop) : Prop :=
  ∀ name attributes tokens c s, (child ⟨name, attributes⟩).run (.ofTokens tokens) = (.ok c, s) →
    ∃ body rest, derives (.opening name attributes :: body) c ∧ tokens = body ++ rest ∧
      s = .ofTokens rest

/-- The step `child` reads all that is derived, whatever comes behind it, and every derived element
    has a registered tag. -/
structure ReadsAll (r : Registry TextMatcher)
    (child : LeafElement → TokenReader ReadError (Condition TextMatcher))
    (derives : List Token → Condition TextMatcher → Prop) : Prop where
  run_eq : ∀ {name attributes body c}, derives (.opening name attributes :: body) c →
    ∀ rest, (child ⟨name, attributes⟩).run (.ofTokens (body ++ rest)) = (.ok c, .ofTokens rest)
  registered : ∀ {name attributes body c}, derives (.opening name attributes :: body) c →
    ∃ statement, r.find? name = some statement

section Element

variable {r : Reader TextMatcher} {parent : String}
  {child : LeafElement → TokenReader ReadError (Condition TextMatcher)}
  {derives : List Token → Condition TextMatcher → Prop}

/-- The rounds of a body take its items. -/
theorem items_of_gathers (hchild : ReadsOnly child derives) {expected : String}
    {s s' : TokenSource} {groups : List (List (Condition TextMatcher))}
    (h : Gathers (TokenReader.nextOr expected)
      (r.item parent (r.registry.allowedChildren parent) child) s groups s')
    {tokens : List Token} (hs : s = .ofTokens tokens) :
    ∃ items rest, Items r.registry parent derives items groups.flatten ∧
      tokens = items ++ .closing :: rest ∧ s' = .ofTokens rest := by
  induction h generalizing tokens with
  | done taken ended =>
    subst hs
    obtain ⟨rest, rfl, rfl⟩ := TokenReader.run_nextOr_iff.mp taken
    obtain ⟨rfl, rfl⟩ := Reader.run_item_none_iff.mp ended
    exact ⟨[], rest, .nil, rfl, rfl⟩
  | more taken gave _ ih =>
    subst hs
    obtain ⟨behind, rfl, rfl⟩ := TokenReader.run_nextOr_iff.mp taken
    rcases Reader.run_item_some_iff.mp gave with
      ⟨content, rfl, hblank, rfl, rfl⟩ | ⟨name, attributes, c, rfl, -, hallowed, hrun, rfl⟩
    · obtain ⟨items, rest, hitems, rfl, rfl⟩ := ih rfl
      exact ⟨_, rest, .blank hblank hitems, rfl, rfl⟩
    · obtain ⟨body, behind, hc, rfl, rfl⟩ := hchild _ _ _ _ _ hrun
      obtain ⟨items, rest, hitems, rfl, rfl⟩ := ih rfl
      exact ⟨_, rest, .element hallowed hc hitems, by simp, rfl⟩

/-- Items are taken round by round. -/
theorem gathers_of_items (hchild : ReadsAll r.registry child derives) (expected : String)
    {items : List Token} {cs : List (Condition TextMatcher)}
    (h : Items r.registry parent derives items cs) (rest : List Token) :
    ∃ groups, Gathers (TokenReader.nextOr expected)
      (r.item parent (r.registry.allowedChildren parent) child)
      (.ofTokens (items ++ .closing :: rest)) groups (.ofTokens rest) ∧ cs = groups.flatten := by
  induction h with
  | nil =>
    exact ⟨[], .done (TokenReader.run_nextOr_cons _ _ _)
      (Reader.run_item_none_iff.mpr ⟨rfl, rfl⟩), rfl⟩
  | blank hblank _ ih =>
    obtain ⟨groups, hgroups, rfl⟩ := ih
    exact ⟨[] :: groups, .more (TokenReader.run_nextOr_cons _ _ _)
      (Reader.run_item_some_iff.mpr (.inl ⟨_, rfl, hblank, rfl, rfl⟩)) hgroups, rfl⟩
  | @element name attributes body items c cs hallowed hc _ ih =>
    obtain ⟨groups, hgroups, rfl⟩ := ih
    have hrun := hchild.run_eq hc (items ++ .closing :: rest)
    rw [List.append_assoc]
    exact ⟨[c] :: groups, .more (TokenReader.run_nextOr_cons _ _ _)
      (Reader.run_item_some_iff.mpr
        (.inr ⟨name, attributes, c, rfl, hchild.registered hc, hallowed, hrun, rfl⟩)) hgroups, rfl⟩

/-- What the reader reads as an element is derived. One level is read by the rules of one level; the
    induction is on the levels left. -/
theorem readsOnly_element (hleaves : LeavesReadBy TextMatcher.readElement r.registry)
    (levels : Nat) : ReadsOnly (r.element levels) (Derives r.registry levels) := by
  induction levels with
  | zero =>
    intro name attributes tokens c s h
    exact absurd h Reader.run_element_zero_ne
  | succ levels ih =>
    intro name attributes tokens c s h
    rcases Reader.run_element_succ_iff.mp h with
      ⟨junction, cs, hfind, hrun, rfl⟩ | ⟨read, p, s₁, hfind, hread, hclose, rfl⟩
    · obtain ⟨groups, hgroups, rfl⟩ := Reader.run_children_iff.mp hrun
      obtain ⟨items, rest, hitems, rfl, rfl⟩ := items_of_gathers ih hgroups rfl
      exact ⟨_, rest, DerivesElement.composite hfind hitems, by simp, rfl⟩
    · obtain rfl := hleaves _ _ hfind
      obtain ⟨texts, rest, rfl, hp, rfl⟩ := run_leaf_iff.mp ⟨s₁, hread, hclose⟩
      exact ⟨_, rest, DerivesElement.leaf hfind hp, by simp, rfl⟩

/-- A derived element is read, and what is behind it is left. -/
theorem readsAll_element (r : Reader TextMatcher) (levels : Nat) :
    ReadsAll r.registry (r.element levels) (Derives r.registry levels) := by
  induction levels with
  | zero => exact ⟨fun h => h.elim, fun h => h.elim⟩
  | succ levels ih =>
    refine ⟨fun {name attributes body c} h rest => ?_, exists_find?_of_derives⟩
    rw [Reader.run_element_succ_iff]
    cases h with
    | leaf hfind hp =>
      obtain ⟨s₁, hread, hclose⟩ := run_leaf_iff.mpr ⟨_, rest, rfl, hp, rfl⟩
      exact .inr ⟨_, _, s₁, hfind, by simpa using hread, hclose, rfl⟩
    | composite hfind hitems =>
      obtain ⟨groups, hgroups, rfl⟩ := gathers_of_items ih s!"</{name}>" hitems rest
      refine .inl ⟨_, _, hfind, Reader.run_children_iff.mpr ⟨groups, ?_, rfl⟩, rfl⟩
      simpa using hgroups

end Element

/-! ## 4. Whole conditions -/

/-- A derived element behind blank text is read, and what is behind it is left. -/
theorem run_read_of_derives {r : Reader TextMatcher} {blanks element : List Token}
    {c : Condition TextMatcher} (hblanks : ∀ b ∈ blanks, b.isBlankText = true)
    (h : Derives r.registry r.maxDepth element c) (rest : List Token) :
    r.read.run (.ofTokens (blanks ++ element ++ rest)) = (.ok c, .ofTokens rest) := by
  obtain ⟨name, attributes, body, rfl⟩ := exists_opening_of_derives h
  have hdrop : (blanks ++ (.opening name attributes :: body) ++ rest).dropWhile Token.isBlankText =
      .opening name attributes :: (body ++ rest) := by
    rw [List.append_assoc]
    exact TokenReader.dropWhile_isBlankText_iff.mpr ⟨rfl, blanks, hblanks, rfl⟩
  have hskip := TokenReader.run_skipBlankText (blanks ++ (.opening name attributes :: body) ++ rest)
  rw [hdrop] at hskip
  exact Reader.run_read_iff.mpr ⟨_, name, attributes, _, hskip, rfl,
    (readsAll_element r r.maxDepth).run_eq h rest⟩

/-- What a reader reads is one derived element behind blank text, if its leaves are text
    matchers. -/
theorem exists_derives_of_run_read {r : Reader TextMatcher}
    (hleaves : LeavesReadBy TextMatcher.readElement r.registry) {tokens : List Token}
    {c : Condition TextMatcher} {s : TokenSource}
    (h : r.read.run (.ofTokens tokens) = (.ok c, s)) :
    ∃ blanks element rest, (∀ b ∈ blanks, b.isBlankText = true) ∧
      Derives r.registry r.maxDepth element c ∧ tokens = blanks ++ element ++ rest ∧
      s = .ofTokens rest := by
  obtain ⟨s₁, name, attributes, s₂, hblanks, hnext, hrun⟩ := Reader.run_read_iff.mp h
  rw [TokenReader.run_skipBlankText, Prod.mk.injEq] at hblanks
  obtain ⟨-, rfl⟩ := hblanks
  obtain ⟨behind, hdrop, rfl⟩ := TokenReader.run_next_some_iff.mp hnext
  obtain ⟨-, blanks, hblanks, rfl⟩ := TokenReader.dropWhile_isBlankText_iff.mp hdrop
  obtain ⟨body, rest, hc, rfl, rfl⟩ := readsOnly_element hleaves _ _ _ _ _ _ hrun
  exact ⟨blanks, _, rest, hblanks, hc, by simp, rfl⟩

/-- **Under every registry that is made from `bare` or `standard` with text matchers as leaves, the
    reader accepts exactly the elements that the registry derives**, and leaves what is behind
    them. -/
theorem read_eq_ok_iff_derives {start : Registry TextMatcher}
    (hstart : start = .bare ∨ start = .standard) {steps : List (BuildStep TextMatcher)}
    (hsteps : ∀ step ∈ steps, step.ReadsBy TextMatcher.readElement) (depth : Nat)
    (tokens : List Token) (c : Condition TextMatcher) (s : TokenSource) :
    (Reader.read ⟨start.build steps, depth⟩).run (.ofTokens tokens) = (.ok c, s) ↔
      ∃ blanks element rest, (∀ b ∈ blanks, b.isBlankText = true) ∧
        Derives (start.build steps) depth element c ∧ tokens = blanks ++ element ++ rest ∧
        s = .ofTokens rest := by
  have hleaves : LeavesReadBy TextMatcher.readElement (start.build steps) := by
    rcases hstart with rfl | rfl
    · exact leavesReadBy_build (leavesReadBy_bare _) hsteps
    · exact leavesReadBy_build leavesReadBy_standard hsteps
  constructor
  · exact exists_derives_of_run_read hleaves
  · intro h
    obtain ⟨blanks, element, rest, hblanks, hc, rfl, rfl⟩ := h
    exact run_read_of_derives hblanks hc rest

/-- A composite and a leaf that were added, with blank text around the leaf. -/
theorem read_added_statements :
    let steps : List (BuildStep TextMatcher) := [.composite "group" .any,
      .leaf "test" TextMatcher.readElement, .allow "group" "test"]
    (∀ step ∈ steps, step.ReadsBy TextMatcher.readElement) ∧
      (Reader.read ⟨Registry.standard.build steps, 2⟩).run (.ofTokens [.text "\n",
        .opening "group" [], .text " ", .opening "test" [], .closing, .closing, .text "x"]) =
        (.ok (.anyOf [.leaf .any]), .ofTokens [.text "x"]) := by
  intro steps
  have hsteps : ∀ step ∈ steps, step.ReadsBy TextMatcher.readElement := by
    intro step hstep
    simp only [steps, List.mem_cons, List.not_mem_nil, or_false] at hstep
    rcases hstep with rfl | rfl | rfl
    · trivial
    · rfl
    · trivial
  refine ⟨hsteps, (read_eq_ok_iff_derives (.inr rfl) hsteps 2 _ _ _).mpr ?_⟩
  have hleaf : Derives (Registry.standard.build steps) 1 [.opening "test" [], .closing]
      (.leaf .any) := @DerivesElement.leaf _ _ _ _ [] _ rfl rfl
  have hitems : Items (Registry.standard.build steps) "group" (Derives _ 1)
      [.text " ", .opening "test" [], .closing] [.leaf .any] :=
    .blank (by decide) (@Items.element _ _ _ _ _ [.closing] [] _ _ (by decide) hleaf .nil)
  exact ⟨[.text "\n"], _, [.text "x"], by decide, DerivesElement.composite rfl hitems, rfl, rfl⟩

end Verdict
