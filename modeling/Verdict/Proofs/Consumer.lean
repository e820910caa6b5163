import Verdict.Consumer

/-!
# Runs that answer and runs that fail

A run of a `Consumer` answers or fails. This file says, step by step, what a run has done that
answers, and where one has come to that fails:

* `run_bind_eq_ok_iff`, `run_mapError_eq_ok_iff`: a sequence, and a step with other errors;
* `ext_run`, `many_eq`, `loop_eq`: steps are as their runs are, and a loop is its first round and
  those behind;
* `Gathers`: the rounds of a loop `Consumer.items` that comes to its end;
* **`run_items_eq_ok_iff`**: the loop answers exactly at the end of such rounds;
* `FailsWith`: a step whose errors are all of one kind -- kept by sequences and by loops;
* `FollowedBy`: a step that runs as another one does, unless this fails with an excused error --
  kept by sequences and by loops;
* `takeWhile_dropWhile_of_refused`: where a longest run of items ends.
-/

namespace Verdict.Consumer

variable {σ ε ε' α β : Type} [Source σ]

theorem run_bind_eq_ok_iff {x : Consumer σ ε α} {f : α → Consumer σ ε β} {s rest : σ} {b : β} :
    (x >>= f).run s = (.ok b, rest) ↔
      ∃ a s', x.run s = (.ok a, s') ∧ (f a).run s' = (.ok b, rest) := by
  rw [run_bind]
  constructor
  · intro h
    split at h
    · rename_i a s' hx
      exact ⟨a, s', hx, h⟩
    · simp at h
  · intro h
    obtain ⟨a, s', hx, h⟩ := h
    rw [hx]
    exact h

theorem run_mapError_eq_ok_iff {f : ε → ε'} {x : Consumer σ ε α} {s rest : σ} {a : α} :
    (mapError f x).run s = (.ok a, rest) ↔ x.run s = (.ok a, rest) := by
  rw [run_mapError]
  split <;> rename_i hx <;> simp [hx]

theorem run_pure_eq_ok_iff {a b : α} {s rest : σ} :
    (pure a : Consumer σ ε α).run s = (.ok b, rest) ↔ b = a ∧ rest = s := by
  rw [run_pure, Prod.mk.injEq, Except.ok.injEq, eq_comm, eq_comm (a := s)]

theorem run_ofExcept_eq_ok_iff {r : Except ε α} {a : α} {s rest : σ} :
    (ofExcept r).run s = (.ok a, rest) ↔ r = .ok a ∧ rest = s := by
  rw [run_ofExcept, Prod.mk.injEq, eq_comm (a := s)]

/-- Two steps with the same runs are the same step. -/
theorem ext_run {x y : Consumer σ ε α} (h : ∀ s, x.run s = y.run s) : x = y := by
  obtain ⟨run, hrun⟩ := x
  obtain ⟨run', hrun'⟩ := y
  obtain rfl : run = run' := funext h
  rfl

/-! ## Loops -/

/-- A loop is its first round, and the loop again if this gives an item. -/
theorem many_eq (item : Consumer σ ε (Option β)) (yields : item.Yields) :
    many item yields = item >>= fun
      | none => pure []
      | some b => many item yields >>= fun bs => pure (b :: bs) := by
  refine ext_run fun s => ?_
  rw [run_many, run_bind]
  rcases item.run s with ⟨_ | _ | b, rest⟩
  · rfl
  · rfl
  · dsimp only
    rw [run_bind]
    rcases (many item yields).run rest with ⟨_ | _, rest'⟩ <;> rfl

/-- A loop with a state is its first round, and the loop again if this gives no result. -/
theorem loop_eq {γ : Type} {take : Consumer σ ε α} (advances : take.Advances)
    (step : γ → α → Consumer σ ε (γ ⊕ β)) (state : γ) :
    loop take advances step state = take >>= fun a => step state a >>= fun
      | .inl state' => loop take advances step state'
      | .inr b => pure b := by
  refine ext_run fun s => ?_
  rw [run_loop, run_bind]
  rcases take.run s with ⟨_ | a, rest⟩
  · rfl
  · dsimp only
    rw [run_bind]
    rcases (step state a).run rest with ⟨_ | _ | _, rest'⟩ <;> rfl

/-- A loop with a state takes at least one item. -/
theorem loop_advances {γ : Type} {take : Consumer σ ε α} (advances : take.Advances)
    (step : γ → α → Consumer σ ε (γ ⊕ β)) (state : γ) :
    (loop take advances step state).Advances := by
  intro s b rest h
  rw [loop_eq] at h
  obtain ⟨a, s', taken, hrest⟩ := run_bind_eq_ok_iff.mp h
  refine Nat.lt_of_le_of_lt ?_ (advances s a s' taken)
  have hsize := Consumer.size_le (step state a >>= fun
    | .inl state' => loop take advances step state'
    | .inr b => pure b) s'
  rwa [hrest] at hsize

section Loop

variable {take : Consumer σ ε α} {step : α → Consumer σ ε (Option β)}

/-- The rounds of a loop: every round takes an item and runs the step that it selects, and the last
    one is the first whose step answers none. -/
inductive Gathers (take : Consumer σ ε α) (step : α → Consumer σ ε (Option β)) :
    σ → List β → σ → Prop
  | done {s s₁ rest : σ} {a : α} (taken : take.run s = (.ok a, s₁))
      (ended : (step a).run s₁ = (.ok none, rest)) : Gathers take step s [] rest
  | more {s s₁ s₂ rest : σ} {a : α} {b : β} {bs : List β} (taken : take.run s = (.ok a, s₁))
      (gave : (step a).run s₁ = (.ok (some b), s₂)) (others : Gathers take step s₂ bs rest) :
      Gathers take step s (b :: bs) rest

theorem run_items_of_gathers (advances : take.Advances) {s rest : σ} {bs : List β}
    (h : Gathers take step s bs rest) : (items take advances step).run s = (.ok bs, rest) := by
  induction h with
  | done taken ended =>
    rw [run_items, taken]
    simp only [ended]
  | more taken gave _ ih =>
    rw [run_items, taken]
    simp only [gave, ih]

/-- The run is followed by the number of unread items, which every round lowers. -/
theorem gathers_of_run_items (advances : take.Advances) {s rest : σ} {bs : List β}
    (h : (items take advances step).run s = (.ok bs, rest)) : Gathers take step s bs rest := by
  induction hn : Source.size s using Nat.strongRecOn generalizing s bs with
  | _ n ih =>
    rw [run_items] at h
    split at h
    · simp at h
    · rename_i a s₁ taken
      split at h
      · simp at h
      · rename_i s₂ ended
        simp only [Prod.mk.injEq, Except.ok.injEq] at h
        obtain ⟨rfl, rfl⟩ := h
        exact .done taken ended
      · rename_i b s₂ gave
        have shorter : Source.size s₂ < n := by
          have h₁ := advances s a s₁ taken
          have h₂ := (step a).size_le s₁
          rw [gave] at h₂
          exact hn ▸ Nat.lt_of_le_of_lt h₂ h₁
        split at h
        · simp at h
        · rename_i bs' rest' others
          simp only [Prod.mk.injEq, Except.ok.injEq] at h
          obtain ⟨rfl, rfl⟩ := h
          exact .more taken gave (ih _ shorter others rfl)

/-- **A loop answers exactly what its rounds gather.** -/
theorem run_items_eq_ok_iff (advances : take.Advances) {s rest : σ} {bs : List β} :
    (items take advances step).run s = (.ok bs, rest) ↔ Gathers take step s bs rest :=
  ⟨gathers_of_run_items advances, run_items_of_gathers advances⟩

end Loop

/-! ## Errors -/

section Errors

variable {kind : ε → Prop}

/-- Every error of the step is of this kind. -/
def FailsWith (kind : ε → Prop) (x : Consumer σ ε α) : Prop :=
  ∀ s e rest, x.run s = (.error e, rest) → kind e

theorem FailsWith.pure (a : α) : FailsWith kind (Pure.pure a : Consumer σ ε α) := by
  intro s e rest h
  cases h

theorem FailsWith.fail {e : ε} (he : kind e) :
    FailsWith kind (Consumer.fail e : Consumer σ ε α) := by
  intro s e' rest h
  cases h
  exact he

theorem FailsWith.bind {x : Consumer σ ε α} {f : α → Consumer σ ε β} (hx : FailsWith kind x)
    (hf : ∀ a, FailsWith kind (f a)) : FailsWith kind (x >>= f) := by
  intro s e rest h
  rw [run_bind] at h
  split at h
  · exact hf _ _ _ _ h
  · rename_i e' rest' failed
    cases h
    exact hx _ _ _ failed

theorem FailsWith.mapError {f : ε' → ε} (hf : ∀ e, kind (f e)) (x : Consumer σ ε' α) :
    FailsWith kind (Consumer.mapError f x) := by
  intro s e rest h
  rw [run_mapError] at h
  split at h
  · cases h
  · cases h
    exact hf _

/-- The induction is on the number of unread items, which every round lowers. -/
theorem FailsWith.many {x : Consumer σ ε (Option β)} (hx : x.Yields) (h : FailsWith kind x) :
    FailsWith kind (many x hx) := by
  intro s e rest hrun
  induction hn : Source.size s using Nat.strongRecOn generalizing s with
  | _ n ih =>
    rw [run_many] at hrun
    cases gave : x.run s with
    | mk outcome s₁ =>
      rw [gave] at hrun
      rcases outcome with e' | _ | b
      · cases hrun
        exact h _ _ _ gave
      · cases hrun
      · have shorter : Source.size s₁ < n := hn ▸ hx s b s₁ gave
        dsimp only at hrun
        split at hrun
        · rename_i e' rest' others
          cases hrun
          exact ih _ shorter _ others rfl
        · cases hrun

theorem FailsWith.items {take : Consumer σ ε α} (advances : take.Advances)
    {step : α → Consumer σ ε (Option β)} (htake : FailsWith kind take)
    (hstep : ∀ a, FailsWith kind (step a)) : FailsWith kind (items take advances step) :=
  FailsWith.many _ (FailsWith.bind htake hstep)

end Errors

/-! ## Two steps that run alike -/

section TwoSteps

variable {excused : ε → Prop}

/-- Wherever `x` does not fail with an excused error, `y` runs exactly as `x` does: it answers the
    same or fails with the same error, and leaves the same source. -/
def FollowedBy (excused : ε → Prop) (x y : Consumer σ ε α) : Prop :=
  ∀ s, y.run s = x.run s ∨ ∃ e rest, x.run s = (.error e, rest) ∧ excused e

theorem FollowedBy.refl (x : Consumer σ ε α) : FollowedBy excused x x := fun _ => .inl rfl

/-- A step that answers is followed in this. -/
theorem FollowedBy.run_eq {x y : Consumer σ ε α} (h : FollowedBy excused x y) {s rest : σ} {a : α}
    (hx : x.run s = (.ok a, rest)) : y.run s = (.ok a, rest) := by
  rcases h s with heq | ⟨e, _, herror, -⟩
  · rw [heq, hx]
  · cases hx.symm.trans herror

theorem FollowedBy.fail {e : ε} (h : excused e) (y : Consumer σ ε α) :
    FollowedBy excused (Consumer.fail e) y := fun s => .inr ⟨e, s, rfl, h⟩

theorem FollowedBy.bind {x y : Consumer σ ε α} {f g : α → Consumer σ ε β}
    (h : FollowedBy excused x y) (hf : ∀ a, FollowedBy excused (f a) (g a)) :
    FollowedBy excused (x >>= f) (y >>= g) := by
  intro s
  rcases h s with heq | ⟨e, rest, herror, hexcused⟩
  · rw [run_bind, run_bind, heq]
    cases x.run s with
    | mk outcome rest =>
      cases outcome with
      | error e => exact .inl rfl
      | ok a => exact hf a rest
  · exact .inr ⟨e, rest, run_bind_of_error herror f, hexcused⟩

/-- A loop is followed by one whose rounds follow. The induction is on the number of unread items,
    which every round lowers. -/
theorem FollowedBy.many {x y : Consumer σ ε (Option β)} (hx : x.Yields) (hy : y.Yields)
    (h : FollowedBy excused x y) : FollowedBy excused (many x hx) (many y hy) := by
  intro s
  induction hn : Source.size s using Nat.strongRecOn generalizing s with
  | _ n ih =>
    rw [run_many, run_many]
    rcases h s with heq | ⟨e, rest, herror, hexcused⟩
    · rw [heq]
      cases gave : x.run s with
      | mk outcome rest =>
        rcases outcome with e | _ | b
        · exact .inl rfl
        · exact .inl rfl
        · have shorter : Source.size rest < n := hn ▸ hx s b rest gave
          rcases ih _ shorter rest rfl with hothers | ⟨e, rest', hothers, hexcused⟩
          · dsimp only
            rw [hothers]
            exact .inl rfl
          · dsimp only
            rw [hothers]
            exact .inr ⟨e, rest', rfl, hexcused⟩
    · rw [herror]
      exact .inr ⟨e, rest, rfl, hexcused⟩

theorem FollowedBy.items {take : Consumer σ ε α} (advances : take.Advances)
    {f g : α → Consumer σ ε (Option β)} (h : ∀ a, FollowedBy excused (f a) (g a)) :
    FollowedBy excused (items take advances f) (items take advances g) :=
  FollowedBy.many _ _ (FollowedBy.bind (FollowedBy.refl take) h)

end TwoSteps

/-! ## Longest runs -/

/-- Where the item ahead is refused, nothing is taken. -/
theorem takeWhile_dropWhile_of_refused {p : α → Bool} {rest : List α}
    (hrest : ∀ a, rest.head? = some a → p a = false) :
    rest.takeWhile p = [] ∧ rest.dropWhile p = rest := by
  cases rest with
  | nil => exact ⟨rfl, rfl⟩
  | cons a rest =>
    have ha : ¬p a = true := by simp [hrest a rfl]
    exact ⟨List.takeWhile_cons_of_neg ha, List.dropWhile_cons_of_neg ha⟩

end Verdict.Consumer
