import Verdict.Proofs.Evaluation.Calls

/-!
# Which leaves have to be tested

Here a test fails or answers, and keeps no state (`stateless`), so a subtree that is evaluated on
its own does what it does inside its tree.

* `Condition.tested`: the leaves that an evaluation tests, in order, with the paths to them;
* `Condition.Reached`: a path on which every composite was left open by the earlier children;
* `mem_tested`: the leaves tested are those at the end of such a path;
* `ends_tested`: a failing leaf is tested last;
* `Condition.holds`: the outcome of a tree when every leaf is tested;
* `evaluate_of_answers`: without failures it is the outcome of the evaluation;
* **`shortCircuit`**: all of it together.
-/

namespace Verdict

open Writing

variable {P ε : Type}

/-- A test that keeps no state. -/
def stateless (test : P → Except ε Bool) (p : P) : Testing Unit ε Bool := ofExcept (test p)

theorem result_stateless (test : P → Except ε Bool) (p : P) (s : Unit) :
    (stateless test p).result s = (test p, s) := by
  rw [stateless]
  cases test p <;> rfl

namespace Junction

/-- The outcome of a child that leaves the composite to the other children. -/
def neutral : Junction → Bool
  | .all => true
  | .any => false

theorem ne_stopsOn_iff {junction : Junction} {b : Bool} :
    b ≠ junction.stopsOn ↔ b = junction.neutral := by
  cases junction <;> cases b <;> decide

/-- The outcome of a composite whose children have these outcomes. -/
def combine : Junction → List Bool → Bool
  | .all, outcomes => outcomes.all id
  | .any, outcomes => outcomes.any id

@[simp] theorem combine_nil (junction : Junction) : junction.combine [] = !junction.stopsOn := by
  cases junction <;> rfl

/-- A child with the outcome that the junction stops on settles the composite. -/
theorem combine_cons (junction : Junction) (b : Bool) (rest : List Bool) :
    junction.combine (b :: rest) =
      if b = junction.stopsOn then b else junction.combine rest := by
  cases junction <;> cases b <;> rfl

end Junction

namespace Condition

/-! ## 1. Evaluation without a state -/

/-- The first child of a composite settles it, fails, or leaves it to the others. -/
theorem evaluateAll_cons (test : P → Except ε Bool) (junction : Junction) (c : Condition P)
    (rest : List (Condition P)) :
    evaluateAll test junction (c :: rest) =
      match c.evaluate test with
      | .error e => .error e
      | .ok b => if b = junction.stopsOn then .ok b else evaluateAll test junction rest := by
  rw [evaluateAll]
  rcases c.evaluate test with e | b
  · rfl
  · show (if b = junction.stopsOn then Except.ok junction.stopsOn else _) = _
    by_cases h : b = junction.stopsOn
    · rw [if_pos h, h]
      exact (if_pos rfl).symm
    · rw [if_neg h]
      exact (if_neg h).symm

mutual

/-- A test that keeps no state is evaluated as what it answers. -/
theorem result_evaluate_stateless (test : P → Except ε Bool) (c : Condition P) (s : Unit) :
    (c.evaluate (stateless test)).result s = (c.evaluate test, s) := by
  match c with
  | leaf p => exact result_stateless test p s
  | composite junction children => exact result_evaluateAll_stateless test junction children s

theorem result_evaluateAll_stateless (test : P → Except ε Bool) (junction : Junction)
    (cs : List (Condition P)) (s : Unit) :
    (evaluateAll (stateless test) junction cs).result s = (evaluateAll test junction cs, s) := by
  match cs with
  | [] => rfl
  | c :: rest =>
    rw [result_evaluateAll_cons, evaluateAll_cons, result_evaluate_stateless test c s]
    rcases c.evaluate test with e | b
    · rfl
    · dsimp only
      split
      · rfl
      · exact result_evaluateAll_stateless test junction rest s

end

mutual

/-- Every call is answered by the test. -/
theorem answer_of_mem_calls {test : P → Except ε Bool} {c : Condition P} {s : Unit}
    {call : P × Except ε Bool} (h : call ∈ c.calls (stateless test) s) : call.2 = test call.1 := by
  match c with
  | leaf p =>
    obtain rfl := List.mem_singleton.mp h
    exact congrArg Prod.fst (result_stateless test p s)
  | composite junction children => exact answer_of_mem_callsAll h

theorem answer_of_mem_callsAll {test : P → Except ε Bool} {junction : Junction}
    {cs : List (Condition P)} {s : Unit} {call : P × Except ε Bool}
    (h : call ∈ callsAll (stateless test) junction cs s) : call.2 = test call.1 := by
  match cs with
  | [] => cases h
  | c :: rest =>
    rw [callsAll, result_evaluate_stateless] at h
    rcases List.mem_append.mp h with h | h
    · exact answer_of_mem_calls h
    · rcases hrun : c.evaluate test with e | b
      · rw [hrun] at h
        cases h
      · rw [hrun] at h
        dsimp only at h
        split at h
        · cases h
        · exact answer_of_mem_callsAll h

end

/-! ## 2. The leaves tested -/

/-- The leaves that an evaluation tests, in the order of the calls, with the paths to them. -/
def tested (test : P → Except ε Bool) (c : Condition P) : List (List Nat × P) :=
  let run := (c.labelled.evaluate (observed (stateless (test ∘ Prod.snd)))).result ((), [])
  run.2.2.map Prod.fst

/-- The leaves tested below the children of a composite, the first of which has this index. -/
def testedFrom (test : P → Except ε Bool) (junction : Junction) (index : Nat)
    (cs : List (Condition P)) : List (List Nat × P) :=
  (callsAll (stateless (test ∘ Prod.snd)) junction (labelledFrom index cs) ()).map Prod.fst

/-- The leaves tested are those of the calls. -/
theorem tested_eq_calls (test : P → Except ε Bool) (c : Condition P) :
    tested test c = (c.labelled.calls (stateless (test ∘ Prod.snd)) ()).map Prod.fst := by
  rw [tested, result_evaluate_observed, List.nil_append]

theorem tested_leaf (test : P → Except ε Bool) (p : P) : tested test (leaf p) = [([], p)] := by
  rw [tested_eq_calls]
  rfl

theorem tested_composite (test : P → Except ε Bool) (junction : Junction)
    (children : List (Condition P)) :
    tested test (composite junction children) = testedFrom test junction 0 children := by
  rw [tested_eq_calls]
  rfl

/-- The leaves tested of the first child, and those of the others where it settles nothing. -/
theorem testedFrom_cons (test : P → Except ε Bool) (junction : Junction) (index : Nat)
    (c : Condition P) (rest : List (Condition P)) :
    testedFrom test junction index (c :: rest) =
      (tested test c).map (under index) ++
        match c.evaluate test with
        | .error _ => []
        | .ok b =>
          if b = junction.stopsOn then [] else testedFrom test junction (index + 1) rest := by
  have hcons := callsAll_labelledFrom_cons (stateless test) junction index c rest ()
  rw [result_evaluate_stateless] at hcons
  rw [testedFrom, tested_eq_calls, List.map_map]
  refine (congrArg (List.map Prod.fst) hcons).trans ?_
  rw [List.map_append, List.map_map]
  congr 1
  rcases c.evaluate test with e | b
  · rfl
  · dsimp only
    split <;> rfl

/-- The leaves tested behind the first child, if there are any. -/
theorem mem_testedFrom_cons {test : P → Except ε Bool} {junction : Junction} {index : Nat}
    {c : Condition P} {rest : List (Condition P)} {leaf : List Nat × P} :
    leaf ∈ testedFrom test junction index (c :: rest) ↔
      leaf ∈ (tested test c).map (under index) ∨
        c.evaluate test = .ok junction.neutral ∧
          leaf ∈ testedFrom test junction (index + 1) rest := by
  rw [testedFrom_cons, List.mem_append]
  rcases c.evaluate test with e | b
  · simp
  · rw [Except.ok.injEq, ← Junction.ne_stopsOn_iff]
    by_cases h : b = junction.stopsOn <;> simp [h]

/-- Below a composite the leaves tested are those of the children that are evaluated. -/
theorem mem_testedFrom {test : P → Except ε Bool} {junction : Junction} {index : Nat}
    {cs : List (Condition P)} {path : List Nat} {p : P} :
    (path, p) ∈ testedFrom test junction index cs ↔
      ∃ i rest child, path = (index + i) :: rest ∧ cs[i]? = some child ∧
        (rest, p) ∈ tested test child ∧
        ∀ k < i, ∀ earlier, cs[k]? = some earlier →
          earlier.evaluate test = .ok junction.neutral := by
  -- Every child moves the index of the others, so the induction is for all indices.
  induction cs generalizing index with
  | nil => simp [testedFrom, labelledFrom, callsAll]
  | cons c others ih =>
    rw [mem_testedFrom_cons, List.mem_map, ih]
    constructor
    · intro h
      rcases h with ⟨⟨rest, q⟩, hq, hunder⟩ | ⟨hc, i, rest, child, rfl, hchild, hleaf, hearlier⟩
      · obtain ⟨rfl, rfl⟩ := Prod.mk.inj hunder
        exact ⟨0, rest, c, rfl, rfl, hq, fun k hk => absurd hk (Nat.not_lt_zero k)⟩
      · refine ⟨i + 1, rest, child, by rw [Nat.add_right_comm, Nat.add_assoc], hchild, hleaf, ?_⟩
        intro k hk earlier hget
        cases k with
        | zero =>
          obtain rfl := Option.some.inj hget
          exact hc
        | succ k => exact hearlier k (Nat.lt_of_succ_lt_succ hk) earlier hget
    · intro h
      obtain ⟨i, rest, child, rfl, hchild, hleaf, hearlier⟩ := h
      cases i with
      | zero =>
        obtain rfl := Option.some.inj hchild
        exact .inl ⟨(rest, p), hleaf, rfl⟩
      | succ i =>
        refine .inr ⟨hearlier 0 (Nat.succ_pos i) c rfl, i, rest, child,
          by rw [Nat.add_right_comm, Nat.add_assoc], hchild, hleaf, ?_⟩
        intro k hk earlier hget
        exact hearlier (k + 1) (Nat.succ_lt_succ hk) earlier hget

/-- Wherever the path goes through a child of a composite, each earlier child leaves the composite
    to the others when it is evaluated on its own. -/
def Reached (test : P → Except ε Bool) (c : Condition P) (path : List Nat) : Prop :=
  ∀ before i after, path = before ++ i :: after →
    ∀ junction children, c.at? before = some (composite junction children) →
      ∀ k < i, ∀ earlier, children[k]? = some earlier →
        earlier.evaluate test = .ok junction.neutral

theorem reached_nil (test : P → Except ε Bool) (c : Condition P) : Reached test c [] :=
  fun before i after h => by simp at h

/-- A path is reached if its first child is, and the rest of the path within it. -/
theorem reached_cons {test : P → Except ε Bool} {junction : Junction}
    {children : List (Condition P)} {i : Nat} {path : List Nat} {child : Condition P}
    (hchild : children[i]? = some child) :
    Reached test (composite junction children) (i :: path) ↔
      (∀ k < i, ∀ earlier, children[k]? = some earlier →
        earlier.evaluate test = .ok junction.neutral) ∧ Reached test child path := by
  constructor
  · intro h
    refine ⟨h [] i path rfl junction children rfl, ?_⟩
    rintro before j after rfl junction' children' hat
    refine h (i :: before) j after rfl junction' children' ?_
    rwa [at?, Condition.children, hchild]
  · rintro ⟨hfirst, hrest⟩ before j after hpath junction' children' hat
    cases before with
    | nil =>
      cases hpath
      cases hat
      exact hfirst
    | cons first before =>
      cases hpath
      rw [at?, Condition.children, hchild] at hat
      exact hrest before j after rfl junction' children' hat

/-- **The leaves tested are those at the end of a path that is reached.** -/
theorem mem_tested {test : P → Except ε Bool} {c : Condition P} {path : List Nat} {p : P} :
    (path, p) ∈ tested test c ↔ c.at? path = some (leaf p) ∧ Reached test c path := by
  -- Along the path: each step of it goes into one child of the composite at hand.
  induction path generalizing c with
  | nil =>
    cases c with
    | leaf q =>
      rw [tested_leaf, List.mem_singleton]
      simp [at?, reached_nil, eq_comm]
    | composite junction children =>
      rw [tested_composite, mem_testedFrom]
      simp [at?]
  | cons i path ih =>
    cases c with
    | leaf q =>
      rw [tested_leaf, List.mem_singleton]
      simp [at?, children]
    | composite junction children =>
      rw [tested_composite, mem_testedFrom, at?, Condition.children, Option.bind_eq_some_iff]
      constructor
      · intro h
        obtain ⟨j, rest, child, hpath, hchild, hleaf, hearlier⟩ := h
        rw [Nat.zero_add] at hpath
        cases hpath
        obtain ⟨hat, hreached⟩ := ih.mp hleaf
        exact ⟨⟨child, hchild, hat⟩, (reached_cons hchild).mpr ⟨hearlier, hreached⟩⟩
      · intro h
        obtain ⟨⟨child, hchild, hat⟩, hreached⟩ := h
        obtain ⟨hearlier, hreached⟩ := (reached_cons hchild).mp hreached
        exact ⟨i, path, child, by rw [Nat.zero_add], hchild, ih.mpr ⟨hat, hreached⟩, hearlier⟩

/-- The paths to the leaves tested increase in lexicographic order. -/
theorem pairwise_tested (test : P → Except ε Bool) (c : Condition P) :
    ((tested test c).map Prod.fst).Pairwise (· < ·) := by
  rw [tested_eq_calls, List.map_map]
  exact pairwise_calls_labelled _ c ()

/-! ## 3. Failures -/

/-- How the leaves tested end: all of them answer, or the last one fails with the error of the
    evaluation and those before it answer. -/
theorem ends_tested (test : P → Except ε Bool) (c : Condition P) :
    match c.evaluate test with
    | .ok _ => ∀ leaf ∈ tested test c, ∃ b, test leaf.2 = .ok b
    | .error e => ∃ before leaf, tested test c = before ++ [leaf] ∧ test leaf.2 = .error e ∧
        ∀ earlier ∈ before, ∃ b, test earlier.2 = .ok b := by
  have hends := ends_calls (stateless (test ∘ Prod.snd)) c.labelled ()
  have hlabelled : c.labelled.evaluate (test ∘ Prod.snd) = c.evaluate test :=
    evaluate_labelled test c
  have hanswer := fun call => @answer_of_mem_calls _ _ (test ∘ Prod.snd) c.labelled () call
  rw [result_evaluate_stateless, hlabelled] at hends
  rw [tested_eq_calls]
  -- From here on a call is any call that the test has answered.
  generalize c.labelled.calls (stateless (test ∘ Prod.snd)) () = calls at hends hanswer
  rcases hrun : c.evaluate test with e | b <;> rw [hrun] at hends
  · obtain ⟨before, leaf, rfl, hbefore⟩ := hends
    refine ⟨before.map Prod.fst, leaf, by rw [List.map_append]; rfl, ?_, ?_⟩
    · exact (hanswer _ (List.mem_append_right _ List.mem_cons_self)).symm
    · intro earlier hmem
      obtain ⟨call, hcall, rfl⟩ := List.mem_map.mp hmem
      obtain ⟨b, hb⟩ := hbefore call hcall
      exact ⟨b, (hanswer call (List.mem_append_left _ hcall)).symm.trans hb⟩
  · intro leaf hmem
    obtain ⟨call, hcall, rfl⟩ := List.mem_map.mp hmem
    obtain ⟨b', hb'⟩ := hends call hcall
    exact ⟨b', (hanswer call hcall).symm.trans hb'⟩

/-- An evaluation fails with an error if a leaf tested does. -/
theorem evaluate_eq_error_iff {test : P → Except ε Bool} {c : Condition P} {e : ε} :
    c.evaluate test = .error e ↔ ∃ leaf ∈ tested test c, test leaf.2 = .error e := by
  have hends := ends_tested test c
  constructor
  · intro h
    rw [h] at hends
    obtain ⟨before, leaf, htested, hfails, -⟩ := hends
    exact ⟨leaf, htested ▸ List.mem_append_right _ List.mem_cons_self, hfails⟩
  · rintro ⟨leaf, hmem, hfails⟩
    rcases hrun : c.evaluate test with e' | b
    · rw [hrun] at hends
      obtain ⟨before, last, htested, hlast, hbefore⟩ := hends
      rw [htested] at hmem
      rcases List.mem_append.mp hmem with hmem | hmem
      · obtain ⟨b, hb⟩ := hbefore leaf hmem
        rw [hb] at hfails
        cases hfails
      · obtain rfl := List.mem_singleton.mp hmem
        exact hlast.symm.trans hfails
    · rw [hrun] at hends
      obtain ⟨b', hb'⟩ := hends leaf hmem
      rw [hb'] at hfails
      cases hfails

/-- A leaf that fails is the last one tested. -/
theorem getLast?_of_fails {test : P → Except ε Bool} {c : Condition P} {leaf : List Nat × P} {e : ε}
    (hmem : leaf ∈ tested test c) (hfails : test leaf.2 = .error e) :
    (tested test c).getLast? = some leaf := by
  have hends := ends_tested test c
  rw [evaluate_eq_error_iff.mpr ⟨leaf, hmem, hfails⟩] at hends
  obtain ⟨before, last, htested, -, hbefore⟩ := hends
  rw [htested] at hmem ⊢
  rcases List.mem_append.mp hmem with hmem | hmem
  · obtain ⟨b, hb⟩ := hbefore leaf hmem
    rw [hb] at hfails
    cases hfails
  · obtain rfl := List.mem_singleton.mp hmem
    exact List.getLast?_concat

/-! ## 4. All leaves -/

mutual

/-- The outcome of a tree when every leaf is tested. -/
def holds (answer : P → Bool) : Condition P → Bool
  | leaf p => answer p
  | composite junction children => junction.combine (holdsAll answer children)

/-- The outcomes of several trees when every leaf is tested. -/
def holdsAll (answer : P → Bool) : List (Condition P) → List Bool
  | [] => []
  | c :: rest => c.holds answer :: holdsAll answer rest

end

mutual

/-- **If every leaf answers, the outcome is that of testing them all.** -/
theorem evaluate_of_answers {test : P → Except ε Bool} {answer : P → Bool} {c : Condition P}
    (h : ∀ p ∈ c.leafList, test p = .ok (answer p)) : c.evaluate test = .ok (c.holds answer) := by
  match c with
  | leaf p => exact h p List.mem_cons_self
  | composite junction children => exact evaluateAll_of_answers h

theorem evaluateAll_of_answers {test : P → Except ε Bool} {answer : P → Bool}
    {junction : Junction} {cs : List (Condition P)}
    (h : ∀ p ∈ leafLists cs, test p = .ok (answer p)) :
    evaluateAll test junction cs = .ok (junction.combine (holdsAll answer cs)) := by
  match cs with
  | [] =>
    rw [holdsAll, Junction.combine_nil]
    rfl
  | c :: rest =>
    have hc := evaluate_of_answers fun p hp => h p (List.mem_append_left _ hp)
    have hrest := @evaluateAll_of_answers test answer junction rest
      fun p hp => h p (List.mem_append_right _ hp)
    rw [evaluateAll_cons, hc, hrest, holdsAll, Junction.combine_cons]
    dsimp only
    split <;> rfl

end

/-! ## 5. What is tested, and what comes of it -/

/-- **Exactly the leaves that have to be tested are.** Leaves can be told apart by their paths
    without changing an evaluation. A leaf is tested if on its path every earlier child of a
    composite, evaluated on its own, leaves the composite open: holds below `allOf`, does not hold
    below `anyOf`. The leaves are tested once each, in document order. The evaluation fails with an
    error if a leaf tested fails with it, and that leaf is the last one tested. If every leaf of the
    tree answers, the outcome is that of testing them all. -/
theorem shortCircuit (c : Condition P) (test : P → Except ε Bool) :
    (∀ {m : Type → Type} [Monad m] (run : P → m Bool),
      c.labelled.evaluate (fun leaf => run leaf.2) = c.evaluate run) ∧
    (∀ path p, (path, p) ∈ tested test c ↔ c.at? path = some (leaf p) ∧ Reached test c path) ∧
    ((tested test c).map Prod.fst).Pairwise (· < ·) ∧
    (∀ e, c.evaluate test = .error e ↔ ∃ leaf ∈ tested test c, test leaf.2 = .error e) ∧
    (∀ leaf ∈ tested test c, ∀ e, test leaf.2 = .error e →
      (tested test c).getLast? = some leaf) ∧
    ∀ answer : P → Bool, (∀ path p, c.at? path = some (leaf p) → test p = .ok (answer p)) →
      c.evaluate test = .ok (c.holds answer) := by
  refine ⟨fun run => evaluate_labelled run c, fun path p => mem_tested, pairwise_tested test c,
    fun e => evaluate_eq_error_iff, fun leaf hmem e => getLast?_of_fails hmem, ?_⟩
  intro answer h
  refine evaluate_of_answers fun p hp => ?_
  obtain ⟨path, hat⟩ := mem_leafList.mp hp
  exact h path p hat

/-- Leaf 2 settles the inner composite, so leaf 3 is not reached; leaf 4 fails, so leaf 5 is not. -/
theorem shortCircuit_two_levels :
    let c : Condition Nat := anyOf [allOf [leaf 1, leaf 2, leaf 3], leaf 4, leaf 5]
    let answer : Nat → Bool := fun n => n ≠ 2
    let test : Nat → Except String Bool := fun n =>
      if n = 4 then .error "no answer" else .ok (answer n)
    tested test c = [([0, 0], 1), ([0, 1], 2), ([1], 4)] ∧
      ¬ Reached test c [0, 2] ∧
      c.evaluate test = .error "no answer" ∧
      (tested test c).getLast? = some ([1], 4) ∧
      c.evaluate (fun n => (.ok (answer n) : Except String Bool)) = .ok (c.holds answer) := by
  intro c answer test
  have htested : tested test c = [([0, 0], 1), ([0, 1], 2), ([1], 4)] := rfl
  obtain ⟨-, hmem, -, herror, hlast, -⟩ := shortCircuit c test
  obtain ⟨-, -, -, -, -, hall⟩ := shortCircuit c fun n => (.ok (answer n) : Except String Bool)
  have hfailing : ([1], 4) ∈ tested test c := by rw [htested]; decide
  refine ⟨htested, fun hreached => ?_, (herror _).mpr ⟨_, hfailing, rfl⟩,
    hlast _ hfailing "no answer" rfl, hall answer fun _ _ _ => rfl⟩
  have hskipped := (hmem [0, 2] 3).mpr ⟨rfl, hreached⟩
  rw [htested] at hskipped
  exact absurd hskipped (by decide)

end Condition

end Verdict
