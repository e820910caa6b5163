import Verdict.Proofs.Reading.Element
import Verdict.Proofs.Reading.Source

/-!
# The body of an element, token by token

On a list of tokens the reader of a body has one equation for each kind of token that can be ahead:

* `run_children_nil`, `run_children_closing`, `run_children_blank`, `run_children_text`,
  `run_children_unknown`, `run_children_misplaced`, `run_children_opening`.

From them follows what a body is that is read:

* **`run_children_eq_nil_iff`**, **`run_children_eq_cons_iff`**: a body without a child, and one
  with a first child;
* `TakesFront`: a step that leaves a tail of its tokens where it answers, as `takesFront_element`
  says of every element whose leaves are read in this way.
-/

namespace Verdict

open Consumer

/-! ## 1. One token ahead -/

namespace Reader

variable {P : Type} {r : Reader P} {parent : String} {permitted : List String}
  {child : LeafElement → TokenReader ReadError (Condition P)}

/-- The outcome of a body behind its first child. -/
def consOutcome (c : Condition P) :
    Except ReadError (List (Condition P)) × TokenSource →
      Except ReadError (List (Condition P)) × TokenSource
  | (.ok cs, s) => (.ok (c :: cs), s)
  | (.error e, s) => (.error e, s)

theorem consOutcome_eq_ok_iff {c : Condition P} {cs : List (Condition P)} {s : TokenSource}
    {outcome : Except ReadError (List (Condition P)) × TokenSource} :
    consOutcome c outcome = (.ok cs, s) ↔
      ∃ others, outcome = (.ok others, s) ∧ cs = c :: others := by
  obtain ⟨_ | others, s'⟩ := outcome
  · simp [consOutcome]
  · simp only [consOutcome, Prod.mk.injEq, Except.ok.injEq]
    constructor
    · rintro ⟨rfl, rfl⟩
      exact ⟨others, ⟨rfl, rfl⟩, rfl⟩
    · rintro ⟨_, ⟨rfl, rfl⟩, rfl⟩
      exact ⟨rfl, rfl⟩

theorem run_children_nil : (r.children parent permitted child).run (.ofTokens []) =
    (.error (.document (.unexpectedEnd s!"</{parent}>")), .ofTokens []) := by
  rw [children_eq, run_bind, run_items]
  rfl

/-- A token that gives nothing is passed over. -/
theorem run_children_of_item_nil {token : Token} {rest : List Token} {s : TokenSource}
    (h : (r.item parent permitted child token).run (.ofTokens rest) = (.ok (some []), s)) :
    (r.children parent permitted child).run (.ofTokens (token :: rest)) =
      (r.children parent permitted child).run s := by
  rw [children_eq, run_bind, run_bind, run_items, TokenReader.run_nextOr_cons]
  simp only [h]
  rcases (items _ _ (r.item parent permitted child)).run s with ⟨_ | _, s'⟩ <;> rfl

/-- A token whose step fails ends the body there. -/
theorem run_children_of_item_error {token : Token} {rest : List Token} {e : ReadError}
    {s : TokenSource}
    (h : (r.item parent permitted child token).run (.ofTokens rest) = (.error e, s)) :
    (r.children parent permitted child).run (.ofTokens (token :: rest)) = (.error e, s) := by
  rw [children_eq, run_bind, run_items, TokenReader.run_nextOr_cons]
  simp only [h]

theorem run_children_closing (rest : List Token) :
    (r.children parent permitted child).run (.ofTokens (.closing :: rest)) =
      (.ok [], .ofTokens rest) := by
  rw [children_eq, run_bind, run_items]
  rfl

theorem run_children_blank {content : String} (h : Text.isBlank content = true)
    (rest : List Token) :
    (r.children parent permitted child).run (.ofTokens (.text content :: rest)) =
      (r.children parent permitted child).run (.ofTokens rest) := by
  refine run_children_of_item_nil ?_
  rw [item, if_pos h]
  rfl

theorem run_children_text {content : String} (h : Text.isBlank content = false)
    (rest : List Token) :
    (r.children parent permitted child).run (.ofTokens (.text content :: rest)) =
      (.error (.document (.unexpectedToken (.text content) s!"child element or </{parent}>")),
        .ofTokens rest) := by
  refine run_children_of_item_error ?_
  rw [item, h]
  rfl

variable {name : String} {attributes : List Attribute}

theorem run_children_unknown (h : r.registry.find? name = none) (rest : List Token) :
    (r.children parent permitted child).run (.ofTokens (.opening name attributes :: rest)) =
      (.error (.unknownStatement name), .ofTokens rest) := by
  refine run_children_of_item_error ?_
  rw [item, statement, h]
  rfl

theorem run_children_misplaced {found : Statement P} (h : r.registry.find? name = some found)
    (hname : name ∉ permitted) (rest : List Token) :
    (r.children parent permitted child).run (.ofTokens (.opening name attributes :: rest)) =
      (.error (.misplaced name parent permitted), .ofTokens rest) := by
  have hcontains : permitted.contains name = false := by simp [hname]
  refine run_children_of_item_error ?_
  rw [item, statement, h, hcontains]
  rfl

theorem run_children_opening {found : Statement P} (h : r.registry.find? name = some found)
    (hname : name ∈ permitted) (rest : List Token) :
    (r.children parent permitted child).run (.ofTokens (.opening name attributes :: rest)) =
      match (child ⟨name, attributes⟩).run (.ofTokens rest) with
      | (.ok c, s) => consOutcome c ((r.children parent permitted child).run s)
      | (.error e, s) => (.error e, s) := by
  have hitem : ∀ s, (r.item parent permitted child (.opening name attributes)).run s =
      (child ⟨name, attributes⟩ >>= fun c => pure (some [c])).run s := by
    intro s
    rw [item, statement, h, if_pos (List.contains_iff_mem.mpr hname)]
    rfl
  rw [children_eq, run_bind, run_items, TokenReader.run_nextOr_cons]
  simp only [hitem, run_bind]
  rcases (child ⟨name, attributes⟩).run (.ofTokens rest) with ⟨e | c, s⟩
  · rfl
  · dsimp only [run_pure]
    rcases (items _ _ (r.item parent permitted child)).run s with ⟨_ | _, s'⟩ <;> rfl

/-! ## 2. Bodies that are read -/

/-- Blank text at the start of a body is passed over. -/
theorem run_children_dropWhile (tokens : List Token) :
    (r.children parent permitted child).run (.ofTokens tokens) =
      (r.children parent permitted child).run (.ofTokens (tokens.dropWhile Token.isBlankText)) := by
  induction tokens with
  | nil => rfl
  | cons token rest ih =>
    by_cases h : token.isBlankText = true
    · rw [List.dropWhile_cons_of_pos h, ← ih]
      cases token with
      | opening name attributes => cases h
      | text content => exact run_children_blank h rest
      | closing => cases h
    · rw [List.dropWhile_cons_of_neg h]

/-- **A body without a child is blank text and the end of the element.** -/
theorem run_children_eq_nil_iff {tokens : List Token} {s : TokenSource} :
    (r.children parent permitted child).run (.ofTokens tokens) = (.ok [], s) ↔
      ∃ rest, tokens.dropWhile Token.isBlankText = .closing :: rest ∧ s = .ofTokens rest := by
  rw [run_children_dropWhile]
  cases hdrop : tokens.dropWhile Token.isBlankText with
  | nil => simp [run_children_nil]
  | cons token rest =>
    cases token with
    | closing => simp [run_children_closing, eq_comm]
    | text content =>
      have hblank := (TokenReader.dropWhile_isBlankText_iff.mp hdrop).1
      simp [run_children_text hblank]
    | opening name attributes =>
      refine iff_of_false (fun h => ?_) (by simp)
      cases hfind : r.registry.find? name with
      | none => cases (run_children_unknown hfind rest).symm.trans h
      | some found =>
        by_cases hname : name ∈ permitted
        · rw [run_children_opening hfind hname] at h
          split at h
          · obtain ⟨_, -, heq⟩ := consOutcome_eq_ok_iff.mp h
            cases heq
          · cases h
        · cases (run_children_misplaced hfind hname rest).symm.trans h

/-- **A body with a first child** is blank text, an opening tag that is registered and permitted,
    what the child takes, and a body with the other children. -/
theorem run_children_eq_cons_iff {tokens : List Token} {s : TokenSource} {c : Condition P}
    {cs : List (Condition P)} :
    (r.children parent permitted child).run (.ofTokens tokens) = (.ok (c :: cs), s) ↔
      ∃ name attributes rest s₁,
        tokens.dropWhile Token.isBlankText = .opening name attributes :: rest ∧
        (∃ found, r.registry.find? name = some found) ∧ name ∈ permitted ∧
        (child ⟨name, attributes⟩).run (.ofTokens rest) = (.ok c, s₁) ∧
        (r.children parent permitted child).run s₁ = (.ok cs, s) := by
  rw [run_children_dropWhile]
  cases hdrop : tokens.dropWhile Token.isBlankText with
  | nil => simp [run_children_nil]
  | cons token rest =>
    cases token with
    | closing => simp [run_children_closing]
    | text content =>
      have hblank := (TokenReader.dropWhile_isBlankText_iff.mp hdrop).1
      simp [run_children_text hblank]
    | opening name attributes =>
      constructor
      · intro h
        cases hfind : r.registry.find? name with
        | none => cases (run_children_unknown hfind rest).symm.trans h
        | some found =>
          by_cases hname : name ∈ permitted
          · rw [run_children_opening hfind hname] at h
            split at h
            · rename_i first s₁ hfirst
              obtain ⟨others, hothers, heq⟩ := consOutcome_eq_ok_iff.mp h
              obtain ⟨rfl, rfl⟩ := List.cons.inj heq
              exact ⟨name, attributes, rest, s₁, rfl, ⟨found, hfind⟩, hname, hfirst, hothers⟩
            · cases h
          · cases (run_children_misplaced hfind hname rest).symm.trans h
      · rintro ⟨_, _, _, s₁, heq, ⟨found, hfind⟩, hname, hfirst, hothers⟩
        obtain ⟨htoken, rfl⟩ := List.cons.inj heq
        obtain ⟨rfl, rfl⟩ := Token.opening.inj htoken
        rw [run_children_opening hfind hname, hfirst]
        exact consOutcome_eq_ok_iff.mpr ⟨cs, hothers, rfl⟩

end Reader

/-! ## 3. Steps that leave a tail -/

/-- Where the step answers, it leaves a tail of the tokens. -/
def TokenReader.TakesFront {ε α : Type} (x : TokenReader ε α) : Prop :=
  ∀ tokens a s, x.run (.ofTokens tokens) = (.ok a, s) →
    ∃ rest, s = .ofTokens rest ∧ rest <:+ tokens

theorem TokenReader.takesFront_expectClose (tag : String) : TakesFront (expectClose tag) := by
  intro tokens _ s h
  obtain ⟨rest, hdrop, rfl⟩ := run_expectClose_iff.mp h
  have hbehind : .closing :: rest <:+ tokens := hdrop ▸ List.dropWhile_suffix Token.isBlankText
  exact ⟨rest, rfl, (List.suffix_cons _ rest).trans hbehind⟩

/-- Every leaf of the registry leaves a tail of the tokens. -/
def Registry.LeavesTakeFront {P : Type} (r : Registry P) : Prop :=
  ∀ tag read, r.find? tag = some (.leaf read) → ∀ e, (read e).TakesFront

namespace Reader

variable {P : Type} {r : Reader P}

open TokenReader

theorem takesFront_children {parent : String} {permitted : List String}
    {child : LeafElement → TokenReader ReadError (Condition P)}
    (hchild : ∀ e, TakesFront (child e)) : TakesFront (r.children parent permitted child) := by
  intro tokens cs s h
  induction cs generalizing tokens with
  | nil =>
    obtain ⟨rest, hdrop, rfl⟩ := run_children_eq_nil_iff.mp h
    have hbehind : .closing :: rest <:+ tokens := hdrop ▸ List.dropWhile_suffix Token.isBlankText
    exact ⟨rest, rfl, (List.suffix_cons _ rest).trans hbehind⟩
  | cons c cs ih =>
    obtain ⟨name, attributes, body, s₁, hdrop, -, -, hfirst, hothers⟩ :=
      run_children_eq_cons_iff.mp h
    have hbehind : .opening name attributes :: body <:+ tokens :=
      hdrop ▸ List.dropWhile_suffix Token.isBlankText
    obtain ⟨rest₁, rfl, hrest₁⟩ := hchild _ _ _ _ hfirst
    obtain ⟨rest, rfl, hrest⟩ := ih rest₁ hothers
    exact ⟨rest, rfl, (hrest.trans hrest₁).trans ((List.suffix_cons _ body).trans hbehind)⟩

/-- Elements leave a tail of the tokens if the leaves of the registry do. -/
theorem takesFront_element (hleaves : r.registry.LeavesTakeFront) (levels : Nat)
    (e : LeafElement) : TakesFront (r.element levels e) := by
  induction levels generalizing e with
  | zero =>
    intro tokens c s h
    exact absurd h run_element_zero_ne
  | succ levels ih =>
    intro tokens c s h
    rcases run_element_succ_iff.mp h with
      ⟨junction, cs, -, hrun, -⟩ | ⟨read, p, s₁, hfind, hread, hclose, -⟩
    · exact takesFront_children ih tokens cs s hrun
    · obtain ⟨rest₁, rfl, hrest₁⟩ := hleaves _ _ hfind _ _ _ _ hread
      obtain ⟨rest, rfl, hrest⟩ := takesFront_expectClose e.tag _ _ _ hclose
      exact ⟨rest, rfl, hrest.trans hrest₁⟩

end Reader

end Verdict
