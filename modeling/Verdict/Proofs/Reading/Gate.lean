import Verdict.Gate
import Verdict.Proofs.Reading.Body
import Verdict.Proofs.Reading.Depth
import Verdict.Proofs.Reading.RoundTrip

/-!
# Reading a gate

* `Gate.run_read_opening`: what the reader of a gate does behind its opening tag;
* `Gate.Wraps`: tokens that begin with a gate around one condition that another reader reads;
* `run_gate_of_wraps`, `wraps_of_run_gate`: a gate is read where it wraps a condition that is read
  with one level less, and nowhere else;
* `read_writeTo_gate`: a gate that is written is read back, or is too deep;
* **`gate_read_wrapped`**: both together.
-/

namespace Verdict

open Consumer Condition Registry

variable {P : Type}

theorem GateKind.ofTag?_eq_some_iff {tag : String} {kind : GateKind} :
    GateKind.ofTag? tag = some kind ↔ tag = kind.tag := by
  unfold GateKind.ofTag?
  by_cases htrue : tag = GateKind.whenTrue.tag
  · rw [if_pos htrue, htrue]
    cases kind <;> decide
  · rw [if_neg htrue]
    by_cases hfalse : tag = GateKind.whenFalse.tag
    · rw [if_pos hfalse, hfalse]
      cases kind <;> decide
    · rw [if_neg hfalse]
      cases kind with
      | whenTrue => simp [htrue]
      | whenFalse => simp [hfalse]

namespace Gate

/-! ## 1. Gates that are read -/

/-- The outcome of a gate whose children have this outcome. -/
def outcome (kind : GateKind) :
    Except ReadError (List (Condition P)) × TokenSource → Except ReadError (Gate P) × TokenSource
  | (.ok [condition], s) => (.ok ⟨kind, condition⟩, s)
  | (.ok conditions, s) => (.error (.gateArity kind.tag conditions.length), s)
  | (.error e, s) => (.error e, s)

theorem outcome_eq_ok_iff {kind : GateKind} {g : Gate P} {s : TokenSource}
    {read : Except ReadError (List (Condition P)) × TokenSource} :
    outcome kind read = (.ok g, s) ↔ read = (.ok [g.condition], s) ∧ g.kind = kind := by
  obtain ⟨e | conditions, s'⟩ := read
  · simp [outcome]
  · rcases conditions with _ | ⟨condition, _ | ⟨second, others⟩⟩
    · simp [outcome]
    · simp only [outcome, Prod.mk.injEq, Except.ok.injEq, List.cons.injEq, and_true]
      constructor
      · rintro ⟨rfl, rfl⟩
        exact ⟨⟨rfl, rfl⟩, rfl⟩
      · rintro ⟨⟨rfl, rfl⟩, rfl⟩
        exact ⟨rfl, rfl⟩
    · simp [outcome]

variable {r : Reader P} {tokens rest : List Token} {attributes : List Attribute}

/-- Behind its opening tag a gate is read as its kind says. -/
theorem run_read_opening {kind : GateKind}
    (h : tokens.dropWhile Token.isBlankText = .opening kind.tag attributes :: rest) :
    (Gate.read r).run (.ofTokens tokens) =
      outcome kind ((r.readWithin kind.tag builtInTags).run (.ofTokens rest)) := by
  have hskip := TokenReader.run_skipBlankText tokens
  rw [h] at hskip
  have hblanks := TokenReader.run_lift_iff.mpr hskip
  have hnext := TokenReader.run_lift_iff.mpr
    (TokenReader.run_next_cons (.opening kind.tag attributes) rest)
  unfold Gate.read
  rw [run_bind_of_ok hblanks, run_bind_of_ok hnext]
  dsimp only
  rw [GateKind.ofTag?_eq_some_iff.mpr rfl]
  dsimp only
  rw [run_bind]
  rcases (r.readWithin kind.tag builtInTags).run (.ofTokens rest) with ⟨e | conditions, s⟩
  · rfl
  · rcases conditions with _ | ⟨condition, _ | ⟨second, others⟩⟩ <;> rfl

/-- A gate that is read begins with the opening tag of its kind. -/
theorem run_read_iff {g : Gate P} {s : TokenSource} :
    (Gate.read r).run (.ofTokens tokens) = (.ok g, s) ↔
      ∃ attributes rest,
        tokens.dropWhile Token.isBlankText = .opening g.kind.tag attributes :: rest ∧
        (r.readWithin g.kind.tag builtInTags).run (.ofTokens rest) = (.ok [g.condition], s) := by
  constructor
  · intro h
    have hread := h
    unfold Gate.read at hread
    have hskip := TokenReader.run_lift_iff.mpr (TokenReader.run_skipBlankText tokens)
    rw [run_bind_of_ok hskip] at hread
    obtain ⟨token, s₁, hnext, hread⟩ := run_bind_eq_ok_iff.mp hread
    rcases token with _ | ⟨name, attributes⟩ | content | _
    · cases hread
    · obtain ⟨rest, hdrop, rfl⟩ :=
        TokenReader.run_next_some_iff.mp (TokenReader.run_lift_iff.mp hnext)
      cases hkind : GateKind.ofTag? name with
      | none =>
        dsimp only at hread
        rw [hkind] at hread
        cases hread
      | some kind =>
        obtain rfl := GateKind.ofTag?_eq_some_iff.mp hkind
        obtain ⟨hchildren, rfl⟩ := outcome_eq_ok_iff.mp ((run_read_opening hdrop).symm.trans h)
        exact ⟨attributes, rest, hdrop, hchildren⟩
    · cases hread
    · cases hread
  · rintro ⟨attributes, rest, hdrop, hchildren⟩
    rw [run_read_opening hdrop]
    exact outcome_eq_ok_iff.mpr ⟨hchildren, rfl⟩

/-- Tokens that begin with a gate, and `rest` behind it. Around the gate and in it there may be
    blank text; else the gate holds one element with a built-in tag, which the reader `r` reads as
    the condition of the gate, up to the blank text behind it. -/
inductive Wraps (r : Reader P) (g : Gate P) : List Token → List Token → Prop
  | mk {before inside behind element body rest : List Token} {attributes : List Attribute}
      {tag : String} {tagAttributes : List Attribute}
      (hbefore : ∀ b ∈ before, b.isBlankText = true) (hinside : ∀ b ∈ inside, b.isBlankText = true)
      (hbehind : ∀ b ∈ behind, b.isBlankText = true)
      (hopening : element = .opening tag tagAttributes :: body) (htag : tag ∈ builtInTags)
      (hcondition : r.read.run (.ofTokens (element ++ (behind ++ .closing :: rest))) =
        (.ok g.condition, .ofTokens (behind ++ .closing :: rest))) :
      Wraps r g (before ++ .opening g.kind.tag attributes ::
        (inside ++ (element ++ (behind ++ .closing :: rest)))) rest

end Gate

namespace Reader

variable {registry : Registry P} {limit : Nat}

/-- The tag of an element that is read is registered. -/
theorem exists_find?_of_run_element {r : Reader P} {levels : Nat} {e : LeafElement}
    {s rest : TokenSource} {c : Condition P} (h : (r.element levels e).run s = (.ok c, rest)) :
    ∃ found, r.registry.find? e.tag = some found := by
  cases levels with
  | zero => exact absurd h run_element_zero_ne
  | succ levels =>
    rcases run_element_succ_iff.mp h with ⟨junction, _, hfind, -⟩ | ⟨read, _, _, hfind, -⟩
    · exact ⟨.composite junction, hfind⟩
    · exact ⟨.leaf read, hfind⟩

/-- An element is read alike by a reader of its own and by one that was already some levels down. -/
theorem run_read_opening_iff (limit' : Nat) {name : String} {attributes : List Attribute}
    {rest : List Token} {c : Condition P} {s : TokenSource} :
    (read ⟨registry, limit⟩).run (.ofTokens (.opening name attributes :: rest)) = (.ok c, s) ↔
      (element ⟨registry, limit'⟩ limit ⟨name, attributes⟩).run (.ofTokens rest) = (.ok c, s) := by
  rw [run_read_iff]
  constructor
  · rintro ⟨s₁, _, _, s₂, hblanks, hnext, hrun⟩
    rw [TokenReader.run_skipBlankText, List.dropWhile_cons_of_neg (by simp)] at hblanks
    obtain ⟨-, rfl⟩ := Prod.mk.inj hblanks
    obtain ⟨_, htokens, rfl⟩ := TokenReader.run_next_some_iff.mp hnext
    obtain ⟨htoken, rfl⟩ := List.cons.inj htokens
    obtain ⟨rfl, rfl⟩ := Token.opening.inj htoken
    exact run_element_of_depth_le hrun (depth_le_of_run_element hrun)
  · intro hrun
    refine ⟨_, name, attributes, _, TokenReader.run_skipBlankText _, ?_,
      run_element_of_depth_le hrun (depth_le_of_run_element hrun)⟩
    rw [List.dropWhile_cons_of_neg (by simp)]
    rfl

end Reader

/-! ## 2. The condition of a gate -/

section Wrapped

variable {registry : Registry P} {limit : Nat} {tokens rest : List Token} {g : Gate P}

/-- A gate that wraps a condition is read with one level more than the condition. -/
theorem run_gate_of_wraps (h : Gate.Wraps ⟨registry, limit⟩ g tokens rest) :
    (Gate.read ⟨registry, limit + 1⟩).run (.ofTokens tokens) = (.ok g, .ofTokens rest) := by
  obtain ⟨hbefore, hinside, hbehind, rfl, htag, hcondition⟩ := h
  rename_i before inside behind body attributes tag tagAttributes
  have hrun := (Reader.run_read_opening_iff (limit + 1)).mp hcondition
  have hnone : (Reader.readWithin ⟨registry, limit + 1⟩ g.kind.tag builtInTags).run
      (.ofTokens (behind ++ .closing :: rest)) = (.ok [], .ofTokens rest) :=
    Reader.run_children_eq_nil_iff.mpr
      ⟨rest, TokenReader.dropWhile_isBlankText_iff.mpr ⟨rfl, behind, hbehind, rfl⟩, rfl⟩
  have hchildren : (Reader.readWithin ⟨registry, limit + 1⟩ g.kind.tag builtInTags).run
      (.ofTokens (inside ++ .opening tag tagAttributes :: body ++ (behind ++ .closing :: rest))) =
        (.ok [g.condition], .ofTokens rest) := by
    rw [List.append_assoc]
    exact Reader.run_children_eq_cons_iff.mpr ⟨tag, tagAttributes, _, _,
      TokenReader.dropWhile_isBlankText_iff.mpr ⟨rfl, inside, hinside, rfl⟩,
      Reader.exists_find?_of_run_element hrun, htag, hrun, hnone⟩
  rw [List.append_assoc] at hchildren
  exact Gate.run_read_iff.mpr ⟨attributes, _,
    TokenReader.dropWhile_isBlankText_iff.mpr ⟨rfl, before, hbefore, rfl⟩, hchildren⟩

/-- A gate that is read wraps a condition, if the leaves take their tokens from the front. -/
theorem wraps_of_run_gate (hleaves : registry.LeavesTakeFront)
    (h : (Gate.read ⟨registry, limit + 1⟩).run (.ofTokens tokens) = (.ok g, .ofTokens rest)) :
    Gate.Wraps ⟨registry, limit⟩ g tokens rest := by
  obtain ⟨attributes, inner, hdrop, hchildren⟩ := Gate.run_read_iff.mp h
  obtain ⟨tag, tagAttributes, content, s₁, hinner, -, htag, hcondition, hothers⟩ :=
    Reader.run_children_eq_cons_iff.mp hchildren
  -- What the condition takes is what is missing of the tokens behind it.
  obtain ⟨tail, rfl, body, rfl⟩ := Reader.takesFront_element hleaves limit _ _ _ _ hcondition
  obtain ⟨_, htail, heq⟩ := Reader.run_children_eq_nil_iff.mp hothers
  obtain rfl : rest = _ := congrArg TokenSource.tokens heq
  obtain ⟨-, before, hbefore, rfl⟩ := TokenReader.dropWhile_isBlankText_iff.mp hdrop
  obtain ⟨-, inside, hinside, rfl⟩ := TokenReader.dropWhile_isBlankText_iff.mp hinner
  obtain ⟨-, behind, hbehind, rfl⟩ := TokenReader.dropWhile_isBlankText_iff.mp htail
  have hread := (Reader.run_read_opening_iff (limit + 1)).mpr hcondition
  exact .mk hbefore hinside hbehind rfl htag hread

/-- A gate whose condition is too deep for one level less than the limit is too deep. -/
theorem run_gate_tooDeep (kind : GateKind) (attributes : List Attribute) {tag : String}
    {tagAttributes : List Attribute} {content : List Token} {levels : Nat} {c : Condition P}
    {s : TokenSource} (htag : tag ∈ builtInTags)
    (hcondition : (Reader.element ⟨registry, levels⟩ levels ⟨tag, tagAttributes⟩).run
      (.ofTokens content) = (.ok c, s)) (hdepth : limit ≤ c.depth) :
    ∃ s', (Gate.read ⟨registry, limit⟩).run
      (.ofTokens (.opening kind.tag attributes :: .opening tag tagAttributes :: content)) =
        (.error (.tooDeep limit), s') := by
  have hfewer : limit - 1 < c.depth := by
    have hpos := depth_pos c
    omega
  obtain ⟨found, hfind⟩ : ∃ found, registry.find? tag = some found :=
    Reader.exists_find?_of_run_element hcondition
  obtain ⟨s', htooDeep⟩ := Reader.exists_run_element_tooDeep limit hcondition hfewer
  have hchildren : (Reader.readWithin ⟨registry, limit⟩ kind.tag builtInTags).run
      (.ofTokens (.opening tag tagAttributes :: content)) = (.error (.tooDeep limit), s') := by
    have hopening := @Reader.run_children_opening P ⟨registry, limit⟩ kind.tag builtInTags
      (Reader.element ⟨registry, limit⟩ (limit - 1)) tag tagAttributes found hfind htag content
    rw [htooDeep] at hopening
    exact hopening
  refine ⟨s', ?_⟩
  rw [Gate.run_read_opening (List.dropWhile_cons_of_neg (by simp)), hchildren]
  rfl

end Wrapped

/-! ## 3. Gates that are written -/

/-- A gate is written as the tokens of its condition, between its two ends. -/
theorem result_writeTo_gate [LeafCodec P] {g : Gate P} {tokens : List Token}
    (h : g.condition.tokens? = .ok tokens) :
    (g.writeTo Sink.collect).result [] =
      (.ok (), .opening g.kind.tag [] :: tokens ++ [.closing]) := by
  have hopening : (emit Sink.collect (.opening g.kind.tag [])).result [] =
      (.ok (), [.opening g.kind.tag []]) := rfl
  unfold Gate.writeTo
  rw [Writing.result_bind_of_ok hopening,
    Writing.result_bind_of_ok (result_writeTo_collect h [.opening g.kind.tag []])]
  rfl

/-- A gate that is written is read back under every extension of the standard registry that leaves
    `condition` as it is, if its condition has fewer levels than the reader takes; otherwise it is
    too deep. -/
theorem read_writeTo_gate {steps : List (BuildStep TextMatcher)}
    (hsteps : ∀ read, .leaf conditionTag read ∉ steps) (limit : Nat) (g : Gate TextMatcher)
    (rest : List Token) :
    ∃ tokens, (g.writeTo Sink.collect).result [] = (.ok (), tokens) ∧
      (g.condition.depth < limit →
        (Gate.read ⟨standard.build steps, limit⟩).run (.ofTokens (tokens ++ rest)) =
          (.ok g, .ofTokens rest)) ∧
      (limit ≤ g.condition.depth → ∃ s,
        (Gate.read ⟨standard.build steps, limit⟩).run (.ofTokens (tokens ++ rest)) =
          (.error (.tooDeep limit), s)) := by
  have hcondition : (standard.build steps : Registry TextMatcher).find? conditionTag =
      some (.leaf TextMatcher.readElement) := by
    rw [find?_conditionTag_build hsteps]
    rfl
  have hcanonical := canonical_build (canonical_standard (P := TextMatcher)) steps
  obtain ⟨tag, attributes, body, htokens, htag, hderives⟩ :=
    exists_derives hcanonical hcondition g.condition
  have hblanks : ∀ b ∈ ([] : List Token), b.isBlankText = true := by simp
  have htokens' :
      .opening g.kind.tag [] :: (.opening tag attributes :: body) ++ [.closing] ++ rest =
        .opening g.kind.tag [] :: (.opening tag attributes :: body ++ .closing :: rest) := by
    simp
  refine ⟨_, result_writeTo_gate htokens, fun hdepth => ?_, fun hdepth => ?_⟩
  · obtain ⟨below, rfl⟩ := Nat.exists_eq_add_of_le' (Nat.lt_of_le_of_lt (Nat.zero_le _) hdepth)
    have hread := @run_read_of_derives ⟨standard.build steps, below⟩ _ _ _ hblanks
      (hderives below (Nat.le_of_lt_succ hdepth)) (.closing :: rest)
    have hwraps : Gate.Wraps ⟨standard.build steps, below⟩ g
        (.opening g.kind.tag [] :: (.opening tag attributes :: body ++ .closing :: rest)) rest :=
      .mk hblanks hblanks hblanks rfl htag hread
    rw [htokens']
    exact run_gate_of_wraps hwraps
  · have hrun := (readsAll_element ⟨standard.build steps, g.condition.depth⟩ _).run_eq
      (hderives _ (Nat.le_refl _)) (.closing :: rest)
    rw [htokens']
    exact run_gate_tooDeep g.kind [] htag hrun hdepth

/-- The leaves of text matchers take their texts from the front. -/
theorem leavesTakeFront_of_readBy {r : Registry TextMatcher}
    (h : LeavesReadBy TextMatcher.readElement r) : r.LeavesTakeFront := by
  intro tag read hfind e tokens p s hrun
  obtain rfl := h tag read hfind
  obtain ⟨texts, rest, rfl, hrest⟩ := TokenReader.exists_texts_append tokens
  obtain ⟨-, rfl⟩ := (run_readElement_append hrest).mp hrun
  exact ⟨rest, rfl, List.suffix_append _ _⟩

/-- **A gate is read exactly when it wraps one condition that is read with one level less**,
    whatever the registry permits below the tag of the gate. So a gate that is written is read back
    under every extension of the standard registry that leaves `condition` as it is, with any tokens
    behind it, if its condition has fewer levels than the reader takes; otherwise it is too deep. -/
theorem gate_read_wrapped :
    (∀ {P : Type} {registry : Registry P}, registry.LeavesTakeFront →
      ∀ (limit : Nat) (tokens rest : List Token) (g : Gate P),
        (Gate.read ⟨registry, limit + 1⟩).run (.ofTokens tokens) = (.ok g, .ofTokens rest) ↔
          Gate.Wraps ⟨registry, limit⟩ g tokens rest) ∧
    ∀ {steps : List (BuildStep TextMatcher)}, (∀ read, .leaf conditionTag read ∉ steps) →
      ∀ (limit : Nat) (g : Gate TextMatcher) (rest : List Token),
        let read := (Gate.read ⟨standard.build steps, limit⟩).run
        ∃ tokens, (g.writeTo Sink.collect).result [] = (.ok (), tokens) ∧ (g == g) = true ∧
          (g.condition.depth < limit →
            read (.ofTokens (tokens ++ rest)) = (.ok g, .ofTokens rest)) ∧
          (limit ≤ g.condition.depth →
            ∃ s, read (.ofTokens (tokens ++ rest)) = (.error (.tooDeep limit), s)) := by
  refine ⟨fun hleaves limit tokens rest g => ?_, fun hsteps limit g rest => ?_⟩
  · exact ⟨wraps_of_run_gate hleaves, run_gate_of_wraps⟩
  · obtain ⟨tokens, hwritten, hfewer, htooDeep⟩ := read_writeTo_gate hsteps limit g rest
    have hself : (g == g) = true := Bool.and_eq_true_iff.mpr ⟨BEq.rfl, BEq.rfl⟩
    exact ⟨tokens, hwritten, hself, hfewer, htooDeep⟩

/-- A gate with blank text on all sides under an extended registry, and the written form of this
    gate at the limit that is enough for it and at the one below. -/
theorem gate_read_wrapped_two_levels :
    let steps : List (BuildStep TextMatcher) := [.leaf "test" TextMatcher.readElement,
      .composite "group" .any, .allow "ifNot" "group", .allow "allOf" "test"]
    let registry : Registry TextMatcher := standard.build steps
    let g : Gate TextMatcher := ⟨.whenFalse, allOf [leaf .any]⟩
    let tokens : List Token := [.text " ", .opening "ifNot" [⟨"name", "value"⟩], .text "\n",
      .opening "allOf" [], .opening "test" [], .closing, .closing, .text " ", .closing, .text "x"]
    (registry.LeavesTakeFront ∧
      (Gate.read ⟨registry, 3⟩).run (.ofTokens tokens) = (.ok g, .ofTokens [.text "x"]) ∧
      Gate.Wraps ⟨registry, 2⟩ g tokens [.text "x"]) ∧
    (∀ read, .leaf conditionTag read ∉ steps) ∧ g.condition.depth < 3 ∧ 2 ≤ g.condition.depth ∧
    ∃ written, (g.writeTo Sink.collect).result [] = (.ok (), written) ∧
      (Gate.read ⟨registry, 3⟩).run (.ofTokens (written ++ [.closing])) =
        (.ok g, .ofTokens [.closing]) ∧
      ∃ s, (Gate.read ⟨registry, 2⟩).run (.ofTokens (written ++ [.closing])) =
        (.error (.tooDeep 2), s) := by
  intro steps registry g tokens
  have hreadBy : ∀ step ∈ steps, step.ReadsBy TextMatcher.readElement := by
    simp [steps, BuildStep.ReadsBy]
  have hleaves : registry.LeavesTakeFront :=
    leavesTakeFront_of_readBy (leavesReadBy_build leavesReadBy_standard hreadBy)
  have hrun : (Gate.read ⟨registry, 3⟩).run (.ofTokens tokens) =
      (.ok g, .ofTokens [.text "x"]) := by
    with_unfolding_all rfl
  have hsteps : ∀ read, .leaf conditionTag read ∉ steps := by
    intro read
    simp [steps, conditionTag]
  have hfewer : g.condition.depth < 3 := by simp [g, depth, maxDepth]
  have hdepth : 2 ≤ g.condition.depth := by simp [g, depth, maxDepth]
  obtain ⟨written, hwritten, -, hread, -⟩ := gate_read_wrapped.2 hsteps 3 g [.closing]
  obtain ⟨written', hwritten', -, -, htooDeep⟩ := gate_read_wrapped.2 hsteps 2 g [.closing]
  obtain rfl : written = written' := congrArg Prod.snd (hwritten.symm.trans hwritten')
  exact ⟨⟨hleaves, hrun, (gate_read_wrapped.1 hleaves 2 tokens [.text "x"] g).mp hrun⟩, hsteps,
    hfewer, hdepth, written, hwritten, hread hfewer, htooDeep hdepth⟩

end Verdict
