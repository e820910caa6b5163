import Verdict.Proofs.Reading.Body
import Verdict.Proofs.Reading.Derivation

/-!
# Where a reader fails

A reader that fails does so at the first token that no condition can have there, and knows no more
than the tokens up to this one; or at the end of the document, where the condition is not complete.

* `ReadError.AgainstToken`, `ReadError.AtEnd`: the errors that speak against a token, and those that
  miss one;
* `Completable`, `FailsAfter`: tokens that a step answers on once others are put behind them, and
  tokens that it fails on whatever is behind them;
* `Points`, `Punctual`: how an error of a step points at its cause, and steps whose errors all do;
* `Embeds`, **`Points.embed`**: a step that runs inside another one points at the same cause;
* `punctual_children`, `punctual_leaf`, **`refusesAtOnce_or_punctual_element`**: so bodies and
  elements do;
* **`punctual_read`**, **`read_fails_earliest`**: so whole conditions do.
-/

namespace Verdict

open Consumer Registry

/-! ## 1. Causes -/

/-- The errors that speak against the token that was taken last. -/
def ReadError.AgainstToken : ReadError → Prop
  | .document (.unexpectedToken _ _) => True
  | .unknownStatement _ => True
  | .misplaced _ _ _ => True
  | .tooDeep _ => True
  | _ => False

/-- The errors that miss a token at the end of the document. -/
def ReadError.AtEnd : ReadError → Prop
  | .document (.unexpectedEnd _) => True
  | _ => False

theorem ReadError.not_atEnd {e : ReadError} (h : e.AgainstToken) : ¬e.AtEnd := by
  cases e with
  | document error =>
    cases error with
    | unexpectedToken found expected => exact id
    | _ => exact h.elim
  | _ => exact id

namespace TokenReader

variable {α β : Type}

/-- With certain tokens behind them, the step answers on these tokens and takes all of them. -/
def Completable (x : TokenReader ReadError α) (tokens : List Token) : Prop :=
  ∃ more, ∀ rest, ∃ a, x.run (.ofTokens (tokens ++ (more ++ rest))) = (.ok a, .ofTokens rest)

/-- Whatever is behind these tokens, the step takes all of them and fails with this error. -/
def FailsAfter (x : TokenReader ReadError α) (tokens : List Token) (e : ReadError) : Prop :=
  ∀ rest, x.run (.ofTokens (tokens ++ rest)) = (.error e, .ofTokens rest)

/-- How an error of a step points at its cause: at a token which nothing can follow and before which
    all is well, or at the end of the tokens, where something is due. Errors of leaves point at
    nothing. -/
inductive Points (x : TokenReader ReadError α) :
    List Token → ReadError → TokenSource → Prop
  | token {before rest : List Token} {token : Token} {e : ReadError} (against : e.AgainstToken)
      (fails : FailsAfter x (before ++ [token]) e) (completable : Completable x before) :
      Points x (before ++ token :: rest) e (.ofTokens rest)
  | atEnd {tokens : List Token} {e : ReadError} (missing : e.AtEnd)
      (completable : Completable x tokens) : Points x tokens e (.ofTokens [])
  | elsewhere {tokens : List Token} {e : ReadError} {s : TokenSource} (against : ¬e.AgainstToken)
      (missing : ¬e.AtEnd) : Points x tokens e s

/-- Every error of the step points at its cause. -/
def Punctual (x : TokenReader ReadError α) : Prop :=
  ∀ tokens e s, x.run (.ofTokens tokens) = (.error e, s) → Points x tokens e s

/-- The step fails before it takes a token. -/
def RefusesAtOnce (x : TokenReader ReadError α) : Prop :=
  ∃ e, e.AgainstToken ∧ ∀ s, x.run s = (.error e, s)

/-- What the step answers, and what it leaves, does not depend on what it leaves. -/
def Steady (x : TokenReader ReadError α) : Prop :=
  ∀ tokens a s, x.run (.ofTokens tokens) = (.ok a, s) → ∃ taken rest, tokens = taken ++ rest ∧
    s = .ofTokens rest ∧ ∀ more, x.run (.ofTokens (taken ++ more)) = (.ok a, .ofTokens more)

/-- Behind the tokens `front` the step `y` runs as `x` does: it fails where `x` fails, and where `x`
    answers it answers behind the tokens `close`. -/
structure Embeds (x : TokenReader ReadError α) (front close : List Token)
    (y : TokenReader ReadError β) : Prop where
  fails : ∀ {tokens e s}, x.run (.ofTokens tokens) = (.error e, s) →
    y.run (.ofTokens (front ++ tokens)) = (.error e, s)
  answers : ∀ {tokens a rest}, x.run (.ofTokens tokens) = (.ok a, .ofTokens (close ++ rest)) →
    ∃ b, y.run (.ofTokens (front ++ tokens)) = (.ok b, .ofTokens rest)

variable {x : TokenReader ReadError α} {y : TokenReader ReadError β} {front close : List Token}

theorem Completable.embed {tokens : List Token} (hxy : Embeds x front close y)
    (h : Completable x tokens) : Completable y (front ++ tokens) := by
  obtain ⟨more, hmore⟩ := h
  refine ⟨more ++ close, fun rest => ?_⟩
  obtain ⟨a, ha⟩ := hmore (close ++ rest)
  obtain ⟨b, hb⟩ := hxy.answers ha
  exact ⟨b, by simpa using hb⟩

theorem FailsAfter.embed {tokens : List Token} {e : ReadError} (hxy : Embeds x front close y)
    (h : FailsAfter x tokens e) : FailsAfter y (front ++ tokens) e := by
  intro rest
  rw [List.append_assoc]
  exact hxy.fails (h rest)

/-- **A step that runs inside another one points at the same cause.** -/
theorem Points.embed {tokens : List Token} {e : ReadError} {s : TokenSource}
    (hxy : Embeds x front close y) (h : Points x tokens e s) : Points y (front ++ tokens) e s := by
  cases h with
  | token against fails completable =>
    rw [← List.append_assoc]
    refine .token against ?_ (completable.embed hxy)
    rw [List.append_assoc]
    exact fails.embed hxy
  | atEnd missing completable => exact .atEnd missing (completable.embed hxy)
  | elsewhere against missing => exact .elsewhere against missing

/-- An error at the first token. -/
theorem points_first {token : Token} {rest : List Token} {e : ReadError} (against : e.AgainstToken)
    (fails : FailsAfter x [token] e) (completable : Completable x []) :
    Points x (token :: rest) e (.ofTokens rest) :=
  @Points.token α x [] rest token e against fails completable

end TokenReader

open TokenReader

namespace Reader

/-! ## 2. Bodies -/

section Body

variable {P : Type} {r : Reader P} {parent : String} {permitted : List String}
  {child : LeafElement → TokenReader ReadError (Condition P)}

/-- A body is complete with the end of its element. -/
theorem completable_children_nil : Completable (r.children parent permitted child) [] :=
  ⟨[.closing], fun rest => ⟨[], run_children_closing rest⟩⟩

theorem embeds_children_blank {content : String} (h : Text.isBlank content = true) :
    Embeds (r.children parent permitted child) [.text content] []
      (r.children parent permitted child) where
  fails hrun := (run_children_blank h _).trans hrun
  answers hrun := ⟨_, (run_children_blank h _).trans hrun⟩

variable {name : String} {attributes : List Attribute} {found : Statement P}

/-- A child runs in a body behind its opening tag; the end of the body is still to come. -/
theorem embeds_children_child (h : r.registry.find? name = some found) (hname : name ∈ permitted) :
    Embeds (child ⟨name, attributes⟩) [.opening name attributes] [.closing]
      (r.children parent permitted child) where
  fails hrun := by
    rw [List.singleton_append, run_children_opening h hname, hrun]
  answers {tokens c rest} hrun := by
    refine ⟨[c], ?_⟩
    rw [List.singleton_append, run_children_opening h hname, hrun]
    exact consOutcome_eq_ok_iff.mpr ⟨[], run_children_closing rest, rfl⟩

/-- A body goes on behind a child that is read. -/
theorem embeds_children_behind (h : r.registry.find? name = some found) (hname : name ∈ permitted)
    {taken : List Token} {c : Condition P}
    (hchild : ∀ more, (child ⟨name, attributes⟩).run (.ofTokens (taken ++ more)) =
      (.ok c, .ofTokens more)) :
    Embeds (r.children parent permitted child) (.opening name attributes :: taken) []
      (r.children parent permitted child) where
  fails hrun := by
    rw [List.cons_append, run_children_opening h hname, hchild]
    dsimp only
    rw [hrun]
    rfl
  answers {tokens cs rest} hrun := by
    refine ⟨c :: cs, ?_⟩
    rw [List.cons_append, run_children_opening h hname, hchild]
    exact consOutcome_eq_ok_iff.mpr ⟨cs, hrun, rfl⟩

/-- A body that fails behind the opening tag of a child fails in the child, or behind it. -/
theorem points_children_child (h : r.registry.find? name = some found) (hname : name ∈ permitted)
    (hsteady : Steady (child ⟨name, attributes⟩))
    (hchild : RefusesAtOnce (child ⟨name, attributes⟩) ∨ Punctual (child ⟨name, attributes⟩))
    {rest : List Token} {e : ReadError} {s : TokenSource}
    (hrun : (r.children parent permitted child).run (.ofTokens (.opening name attributes :: rest)) =
      (.error e, s))
    (hbehind : ∀ behind, behind.length ≤ rest.length →
      (r.children parent permitted child).run (.ofTokens behind) = (.error e, s) →
      Points (r.children parent permitted child) behind e s) :
    Points (r.children parent permitted child) (.opening name attributes :: rest) e s := by
  have hinside : Embeds (child ⟨name, attributes⟩) [.opening name attributes] [.closing]
    (r.children parent permitted child) := embeds_children_child h hname
  cases hfirst : (child ⟨name, attributes⟩).run (.ofTokens rest) with
  | mk outcome s₁ =>
    cases outcome with
    | error e' =>
      obtain ⟨rfl, rfl⟩ : e' = e ∧ s₁ = s := by
        simpa using (hinside.fails hfirst).symm.trans hrun
      rcases hchild with ⟨refusal, against, hrefuses⟩ | hpunctual
      · obtain ⟨rfl, rfl⟩ : refusal = e' ∧ .ofTokens rest = s₁ := by
          simpa using (hrefuses _).symm.trans hfirst
        have hfails : FailsAfter (r.children parent permitted child)
            [.opening name attributes] refusal := fun more => hinside.fails (hrefuses _)
        exact points_first against hfails completable_children_nil
      · exact (hpunctual rest e' s₁ hfirst).embed hinside
    | ok c =>
      obtain ⟨taken, behind, rfl, rfl, htaken⟩ := hsteady _ _ _ hfirst
      rw [run_children_opening h hname, hfirst] at hrun
      have hothers : (r.children parent permitted child).run (.ofTokens behind) =
          (.error e, s) := by
        cases houtcome : (r.children parent permitted child).run (.ofTokens behind) with
        | mk outcome s₂ =>
          dsimp only at hrun
          rw [houtcome] at hrun
          cases outcome with
          | error e' => exact hrun
          | ok cs => cases hrun
      have hshorter : behind.length ≤ (taken ++ behind).length := by
        rw [List.length_append]
        omega
      exact (hbehind behind hshorter hothers).embed (embeds_children_behind h hname htaken)

/-- **A body points at the cause of its failure if its children do.** The induction is on the number
    of tokens, since behind a child the body goes on. -/
theorem punctual_children (hsteady : ∀ e, Steady (child e))
    (hchild : ∀ e, RefusesAtOnce (child e) ∨ Punctual (child e)) :
    Punctual (r.children parent permitted child) := by
  intro tokens e s h
  induction hn : tokens.length using Nat.strongRecOn generalizing tokens with
  | _ n ih =>
    subst hn
    cases tokens with
    | nil =>
      rw [run_children_nil] at h
      cases h
      exact .atEnd trivial completable_children_nil
    | cons token rest =>
      have hbehind : ∀ behind, behind.length ≤ rest.length →
          (r.children parent permitted child).run (.ofTokens behind) = (.error e, s) →
          Points (r.children parent permitted child) behind e s :=
        fun behind hle hrun => ih _ (Nat.lt_succ_of_le hle) behind hrun rfl
      cases token with
      | closing =>
        rw [run_children_closing] at h
        cases h
      | text content =>
        cases hblank : Text.isBlank content with
        | true =>
          rw [run_children_blank hblank] at h
          exact (hbehind rest (Nat.le_refl _) h).embed (embeds_children_blank hblank)
        | false =>
          rw [run_children_text hblank] at h
          cases h
          exact points_first trivial (run_children_text hblank) completable_children_nil
      | opening name attributes =>
        cases hfind : r.registry.find? name with
        | none =>
          rw [run_children_unknown hfind] at h
          cases h
          exact points_first trivial (run_children_unknown hfind) completable_children_nil
        | some found =>
          by_cases hname : name ∈ permitted
          · exact points_children_child hfind hname (hsteady _) (hchild _) h hbehind
          · rw [run_children_misplaced hfind hname] at h
            cases h
            exact points_first trivial (run_children_misplaced hfind hname)
              completable_children_nil

end Body

/-! ## 3. Elements -/

section Element

variable {P : Type} {r : Reader P} {levels : Nat} {e : LeafElement}

theorem run_element_unknown (h : r.registry.find? e.tag = none) (s : TokenSource) :
    (r.element (levels + 1) e).run s = (.error (.unknownStatement e.tag), s) := by
  rw [element_of_unknown levels h]
  rfl

/-- A composite is its body. -/
theorem embeds_element_children {junction : Junction}
    (h : r.registry.find? e.tag = some (.composite junction)) :
    Embeds (r.children e.tag (r.registry.allowedChildren e.tag) (r.element levels)) [] []
      (r.element (levels + 1) e) := by
  rw [element_of_composite levels h]
  refine ⟨fun herror => ?_, fun {tokens cs rest} hok => ⟨.composite junction cs, ?_⟩⟩
  · rw [List.nil_append, run_bind_of_error herror]
  · rw [List.nil_append, run_bind_of_ok hok]
    rfl

end Element

section Matchers

variable {r : Reader TextMatcher} {levels : Nat} {e : LeafElement} {texts : List String}
  {p : TextMatcher}

/-- Behind its texts a leaf is at the end of its element. -/
theorem run_element_leaf_texts (h : r.registry.find? e.tag = some (.leaf TextMatcher.readElement))
    (hp : TextMatcher.ofElement e (joinedTexts texts) = .ok p) {behind : List Token}
    (hbehind : ∀ token, behind.head? = some token → token.text? = none) :
    (r.element (levels + 1) e).run (.ofTokens (texts.map .text ++ behind)) =
      (mapError ReadError.document (expectClose e.tag) >>= fun _ =>
        pure (Condition.leaf p)).run (.ofTokens behind) := by
  have hread := (run_readElement_append hbehind).mpr ⟨hp, rfl⟩
  rw [element_of_leaf levels h, run_bind_of_ok (run_mapError_eq_ok_iff.mpr hread)]

theorem run_element_leaf_nil (h : r.registry.find? e.tag = some (.leaf TextMatcher.readElement))
    (hp : TextMatcher.ofElement e (joinedTexts texts) = .ok p) :
    (r.element (levels + 1) e).run (.ofTokens (texts.map .text ++ [])) =
      (.error (.document (.unexpectedEnd s!"</{e.tag}>")), .ofTokens []) := by
  rw [run_element_leaf_texts h hp (by simp), run_bind, run_mapError, run_expectClose_nil]

theorem run_element_leaf_opening
    (h : r.registry.find? e.tag = some (.leaf TextMatcher.readElement))
    (hp : TextMatcher.ofElement e (joinedTexts texts) = .ok p) (name : String)
    (attributes : List Attribute) (rest : List Token) :
    (r.element (levels + 1) e).run
        (.ofTokens (texts.map .text ++ .opening name attributes :: rest)) =
      (.error (.document (.unexpectedToken (.opening name attributes) s!"</{e.tag}>")),
        .ofTokens rest) := by
  rw [run_element_leaf_texts h hp (by simp [Token.text?]), run_bind, run_mapError,
    run_expectClose_opening]

theorem run_element_leaf_closing
    (h : r.registry.find? e.tag = some (.leaf TextMatcher.readElement))
    (hp : TextMatcher.ofElement e (joinedTexts texts) = .ok p) (rest : List Token) :
    (r.element (levels + 1) e).run (.ofTokens (texts.map .text ++ .closing :: rest)) =
      (.ok (.leaf p), .ofTokens rest) := by
  have hclose : (expectClose e.tag).run (.ofTokens (.closing :: rest)) = (.ok (), .ofTokens rest) :=
    run_expectClose_iff.mpr ⟨rest, rfl, rfl⟩
  rw [run_element_leaf_texts h hp (by simp [Token.text?]),
    run_bind_of_ok (run_mapError_eq_ok_iff.mpr hclose), run_pure]

/-- A leaf points at the cause of its failure: its attributes and texts make no matcher, or the
    token behind the texts is not its end. -/
theorem punctual_leaf (h : r.registry.find? e.tag = some (.leaf TextMatcher.readElement)) :
    Punctual (r.element (levels + 1) e) := by
  intro tokens error s hrun
  obtain ⟨texts, behind, rfl, hbehind⟩ := exists_texts_append tokens
  cases hread : (TextMatcher.readElement e).run (.ofTokens (texts.map .text ++ behind)) with
  | mk outcome s₁ =>
    cases outcome with
    | error source =>
      rw [element_of_leaf levels h, run_bind, run_mapError, hread] at hrun
      cases hrun
      exact .elsewhere id id
    | ok p =>
      obtain ⟨hp, rfl⟩ := (run_readElement_append hbehind).mp hread
      have hcompletable : Completable (r.element (levels + 1) e) (texts.map .text) :=
        ⟨[.closing], fun rest => ⟨.leaf p, run_element_leaf_closing h hp rest⟩⟩
      cases behind with
      | nil =>
        rw [run_element_leaf_nil h hp] at hrun
        cases hrun
        rw [List.append_nil]
        exact .atEnd trivial hcompletable
      | cons token behind =>
        cases token with
        | opening name attributes =>
          rw [run_element_leaf_opening h hp] at hrun
          cases hrun
          refine .token trivial (fun rest => ?_) hcompletable
          rw [List.append_assoc]
          exact run_element_leaf_opening h hp name attributes rest
        | text content => cases hbehind _ rfl
        | closing => cases (run_element_leaf_closing h hp behind).symm.trans hrun

/-- What an element answers, and what it leaves, does not depend on what it leaves. -/
theorem steady_element (hleaves : LeavesReadBy TextMatcher.readElement r.registry) (levels : Nat)
    (e : LeafElement) : Steady (r.element levels e) := by
  intro tokens c s h
  obtain ⟨body, rest, hc, rfl, rfl⟩ := readsOnly_element hleaves levels _ _ _ _ _ h
  exact ⟨body, rest, rfl, rfl, (readsAll_element r levels).run_eq hc⟩

/-- **An element fails before its first token, or points at the cause of its failure.** -/
theorem refusesAtOnce_or_punctual_element
    (hleaves : LeavesReadBy TextMatcher.readElement r.registry) (levels : Nat) (e : LeafElement) :
    RefusesAtOnce (r.element levels e) ∨ Punctual (r.element levels e) := by
  induction levels generalizing e with
  | zero => exact .inl ⟨.tooDeep r.maxDepth, trivial, fun s => rfl⟩
  | succ levels ih =>
    cases hfind : r.registry.find? e.tag with
    | none => exact .inl ⟨.unknownStatement e.tag, trivial, run_element_unknown hfind⟩
    | some found =>
      refine .inr ?_
      cases found with
      | leaf read =>
        obtain rfl := hleaves _ _ hfind
        exact punctual_leaf hfind
      | composite junction =>
        have hbody : Punctual (r.children e.tag (r.registry.allowedChildren e.tag)
            (r.element levels)) := punctual_children (steady_element hleaves levels) ih
        intro tokens error s hrun
        cases hchildren : (r.children e.tag (r.registry.allowedChildren e.tag)
            (r.element levels)).run (.ofTokens tokens) with
        | mk outcome s₁ =>
          cases outcome with
          | error error' =>
            have hinside : Embeds _ [] [] (r.element (levels + 1) e) :=
              embeds_element_children hfind
            obtain ⟨rfl, rfl⟩ : error' = error ∧ s₁ = s := by
              simpa using (hinside.fails hchildren).symm.trans hrun
            exact (hbody tokens error' s₁ hchildren).embed hinside
          | ok cs =>
            have hok := run_element_succ_iff.mpr (.inl ⟨junction, cs, hfind, hchildren, rfl⟩)
            cases hok.symm.trans hrun

end Matchers

/-! ## 4. Whole conditions -/

section Read

variable {P : Type} {r : Reader P} {blanks : List Token}

/-- What a condition is begins behind blank text. -/
theorem run_read_dropWhile (tokens : List Token) : r.read.run (.ofTokens tokens) =
    match tokens.dropWhile Token.isBlankText with
    | [] => (.error (.document (.unexpectedEnd openingExpected)), .ofTokens [])
    | .opening name attributes :: rest =>
      (r.element r.maxDepth ⟨name, attributes⟩).run (.ofTokens rest)
    | found :: rest => (.error (.document (.unexpectedToken found openingExpected)),
        .ofTokens rest) := by
  rw [read, run_bind_of_ok (run_lift_iff.mpr (run_skipBlankText tokens))]
  cases tokens.dropWhile Token.isBlankText with
  | nil => rfl
  | cons token rest => cases token <;> rfl

theorem run_read_cons (h : ∀ b ∈ blanks, b.isBlankText = true) {token : Token}
    (htoken : token.isBlankText = false) (rest : List Token) :
    r.read.run (.ofTokens (blanks ++ token :: rest)) =
      match token with
      | .opening name attributes => (r.element r.maxDepth ⟨name, attributes⟩).run (.ofTokens rest)
      | found => (.error (.document (.unexpectedToken found openingExpected)), .ofTokens rest) := by
  rw [run_read_dropWhile, dropWhile_isBlankText_iff.mpr ⟨htoken, blanks, h, rfl⟩]
  cases token <;> rfl

/-- A condition cannot begin with anything but an opening tag. -/
theorem points_read_unexpected (h : ∀ b ∈ blanks, b.isBlankText = true) {token : Token}
    (htoken : token.isBlankText = false)
    (hopening : ∀ name attributes, token ≠ .opening name attributes)
    (hcompletable : Completable r.read blanks) {rest : List Token} {e : ReadError} {s : TokenSource}
    (hrun : r.read.run (.ofTokens (blanks ++ token :: rest)) = (.error e, s)) :
    Points r.read (blanks ++ token :: rest) e s := by
  have hfails : ∀ more, r.read.run (.ofTokens (blanks ++ token :: more)) =
      (.error (.document (.unexpectedToken token openingExpected)), .ofTokens more) := by
    intro more
    rw [run_read_cons h htoken]
    cases token with
    | opening name attributes => exact absurd rfl (hopening name attributes)
    | text content => rfl
    | closing => rfl
  cases (hfails rest).symm.trans hrun
  refine .token trivial (fun more => ?_) hcompletable
  rw [List.append_assoc]
  exact hfails more

/-- Behind blank text and an opening tag a condition is an element. -/
theorem embeds_read_element (h : ∀ b ∈ blanks, b.isBlankText = true) (name : String)
    (attributes : List Attribute) :
    Embeds (r.element r.maxDepth ⟨name, attributes⟩) (blanks ++ [.opening name attributes]) []
      r.read := by
  have hrun : ∀ tokens, r.read.run (.ofTokens (blanks ++ [.opening name attributes] ++ tokens)) =
      (r.element r.maxDepth ⟨name, attributes⟩).run (.ofTokens tokens) := by
    intro tokens
    rw [List.append_assoc]
    exact run_read_cons h rfl tokens
  exact ⟨fun herror => (hrun _).trans herror, fun hok => ⟨_, (hrun _).trans hok⟩⟩

/-- Behind blank text there can be an empty composite. -/
theorem completable_read_blanks (hcanonical : Canonical r.registry) (hdepth : 1 ≤ r.maxDepth)
    (h : ∀ b ∈ blanks, b.isBlankText = true) : Completable r.read blanks := by
  have helement : ∀ rest, (r.element r.maxDepth ⟨Junction.all.tag, []⟩).run
      (.ofTokens (.closing :: rest)) = (.ok (.composite .all []), .ofTokens rest) := by
    intro rest
    obtain ⟨levels, hlevels⟩ := Nat.exists_eq_add_of_le' hdepth
    rw [hlevels]
    exact run_element_succ_iff.mpr
      (.inl ⟨.all, [], hcanonical.find?_tag .all, run_children_closing rest, rfl⟩)
  refine ⟨[.opening Junction.all.tag [], .closing], fun rest => ⟨.composite .all [], ?_⟩⟩
  exact (run_read_cons h rfl _).trans (helement rest)

end Read

/-- **A condition points at the cause of its failure.** -/
theorem punctual_read {r : Reader TextMatcher} (hcanonical : Canonical r.registry)
    (hleaves : LeavesReadBy TextMatcher.readElement r.registry) (hdepth : 1 ≤ r.maxDepth) :
    Punctual r.read := by
  intro tokens e s hrun
  obtain ⟨blanks, rest, hblanks, rfl, hrest⟩ : ∃ blanks rest : List Token,
      (∀ b ∈ blanks, b.isBlankText = true) ∧ tokens = blanks ++ rest ∧
        ∀ token, rest.head? = some token → token.isBlankText = false := by
    refine ⟨tokens.takeWhile Token.isBlankText, tokens.dropWhile Token.isBlankText, ?_, ?_, ?_⟩
    · exact fun b hb => List.all_eq_true.mp List.all_takeWhile b hb
    · exact List.takeWhile_append_dropWhile.symm
    · intro token htoken
      have hhead := List.head?_dropWhile_not Token.isBlankText tokens
      rw [htoken] at hhead
      simpa using hhead
  have hcompletable : Completable r.read blanks :=
    completable_read_blanks hcanonical hdepth hblanks
  cases rest with
  | nil =>
    rw [run_read_dropWhile, List.dropWhile_append_of_pos hblanks] at hrun
    cases hrun
    rw [List.append_nil]
    exact .atEnd trivial hcompletable
  | cons token rest =>
    have htoken : token.isBlankText = false := hrest token rfl
    cases token with
    | opening name attributes =>
      have hinside : Embeds _ (blanks ++ [.opening name attributes]) [] r.read :=
        embeds_read_element hblanks name attributes
      rw [run_read_cons hblanks htoken] at hrun
      rcases refusesAtOnce_or_punctual_element hleaves r.maxDepth ⟨name, attributes⟩ with
        ⟨refusal, against, hrefuses⟩ | hpunctual
      · obtain ⟨rfl, rfl⟩ : refusal = e ∧ .ofTokens rest = s := by
          simpa using (hrefuses _).symm.trans hrun
        exact .token against (fun more => hinside.fails (hrefuses _)) hcompletable
      · simpa using (hpunctual rest e s hrun).embed hinside
    | text content => exact points_read_unexpected hblanks htoken (by simp) hcompletable hrun
    | closing => exact points_read_unexpected hblanks htoken (by simp) hcompletable hrun

end Reader

/-- **A reader fails at the earliest token.** If it fails with an error that speaks against a token,
    the tokens up to the one that was taken last are enough for this error, whatever is behind them,
    and the tokens before this one can be continued to a condition that is read. If it misses a
    token at the end of the document, all of the tokens were taken and they can be continued to a
    condition that is read. -/
theorem read_fails_earliest {start : Registry TextMatcher}
    (hstart : start = .bare ∨ start = .standard) {steps : List (BuildStep TextMatcher)}
    (hsteps : ∀ step ∈ steps, step.ReadsBy TextMatcher.readElement) {limit : Nat}
    (hlimit : 1 ≤ limit) {tokens : List Token} {e : ReadError} {s : TokenSource} :
    let read (tokens : List Token) :=
      (Reader.read ⟨start.build steps, limit⟩).run (.ofTokens tokens)
    read tokens = (.error e, s) →
    (e.AgainstToken → ∃ before token rest, tokens = before ++ token :: rest ∧ s = .ofTokens rest ∧
      (∃ more c, read (before ++ more) = (.ok c, .ofTokens [])) ∧
      ∀ more, read (before ++ token :: more) = (.error e, .ofTokens more)) ∧
    (e.AtEnd → s = .ofTokens [] ∧ ∃ more c, read (tokens ++ more) = (.ok c, .ofTokens [])) := by
  intro read hrun
  have hcanonical : Canonical (start.build steps) := by
    rcases hstart with rfl | rfl
    · exact canonical_build canonical_bare steps
    · exact canonical_build canonical_standard steps
  have hleaves : LeavesReadBy TextMatcher.readElement (start.build steps) := by
    rcases hstart with rfl | rfl
    · exact leavesReadBy_build (leavesReadBy_bare _) hsteps
    · exact leavesReadBy_build leavesReadBy_standard hsteps
  have hcomplete : ∀ front, Completable (Reader.read ⟨start.build steps, limit⟩) front →
      ∃ more c, read (front ++ more) = (.ok c, .ofTokens []) := by
    intro front hfront
    obtain ⟨more, hmore⟩ := hfront
    obtain ⟨c, hc⟩ := hmore []
    exact ⟨more, c, by simpa using hc⟩
  cases @Reader.punctual_read ⟨start.build steps, limit⟩ hcanonical hleaves hlimit _ _ _ hrun with
  | @token before rest token _ against fails completable =>
    refine ⟨fun _ => ⟨before, token, rest, rfl, rfl, hcomplete _ completable, fun more => ?_⟩, ?_⟩
    · simpa using fails more
    · exact fun missing => absurd missing (ReadError.not_atEnd against)
  | atEnd missing completable =>
    exact ⟨fun against => absurd missing (ReadError.not_atEnd against),
      fun _ => ⟨rfl, hcomplete _ completable⟩⟩
  | elsewhere against missing => exact ⟨fun h => absurd h against, fun h => absurd h missing⟩

/-- A tag that may not stand in an added composite, and a document that ends in a leaf. -/
theorem read_fails_earliest_added_composite :
    let steps : List (BuildStep TextMatcher) := [.composite "group" .any,
      .leaf "test" TextMatcher.readElement]
    let read (tokens : List Token) :=
      (Reader.read ⟨Registry.standard.build steps, 2⟩).run (.ofTokens tokens)
    let misplaced : ReadError := .misplaced "test" "group" builtInTags
    let group : List Token := [.text " ", .opening "group" []]
    (∀ step ∈ steps, step.ReadsBy TextMatcher.readElement) ∧
      read (group ++ [.opening "test" [], .closing]) = (.error misplaced, .ofTokens [.closing]) ∧
      (∃ more c, read (group ++ more) = (.ok c, .ofTokens [])) ∧
      (∀ more, read (group ++ .opening "test" [] :: more) = (.error misplaced, .ofTokens more)) ∧
      read (group ++ [.opening "condition" [], .text "x"]) =
        (.error (.document (.unexpectedEnd "</condition>")), .ofTokens []) ∧
      ∃ more c, read (group ++ [.opening "condition" [], .text "x"] ++ more) =
        (.ok c, .ofTokens []) := by
  intro steps read misplaced group
  have hsteps : ∀ step ∈ steps, step.ReadsBy TextMatcher.readElement := by
    simp [steps, BuildStep.ReadsBy]
  have hmisplaced : read (group ++ [.opening "test" [], .closing]) =
      (.error misplaced, .ofTokens [.closing]) := by
    with_unfolding_all rfl
  have hend : read (group ++ [.opening "condition" [], .text "x"]) =
      (.error (.document (.unexpectedEnd "</condition>")), .ofTokens []) := by
    with_unfolding_all rfl
  obtain ⟨before, token, rest, htokens, hrest, hcomplete, hfails⟩ :=
    (read_fails_earliest (.inr rfl) hsteps (by decide) hmisplaced).1 trivial
  obtain ⟨-, hcontinued⟩ := (read_fails_earliest (.inr rfl) hsteps (by decide) hend).2 trivial
  -- The tokens that are left say where the split is.
  obtain rfl : [.closing] = rest := congrArg TokenSource.tokens hrest
  have hsplit : group ++ [.opening "test" []] ++ [.closing] = before ++ [token] ++ [.closing] := by
    simpa using htokens
  obtain ⟨rfl, htoken⟩ := List.append_inj' (List.append_cancel_right hsplit) rfl
  obtain ⟨rfl, -⟩ := List.cons.inj htoken
  exact ⟨hsteps, hmisplaced, hcomplete, hfails, hend, hcontinued⟩

end Verdict
