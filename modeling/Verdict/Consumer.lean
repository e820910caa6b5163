/-!
# Consumers: reading steps over a source that only shrinks

Everything this library reads -- a token stream, the characters of a text document, the characters
of a regular expression -- is read front to back. This file fixes what one reading step is:

* `Source`: a type of sources, with the number of items still unread;
* `Consumer σ ε α`: a step that answers an `α` or fails with an `ε`, and leaves a source that is
  never larger than the one it got (`Consumer.size_le`);
* the monad structure, so that steps compose without losing that bound, and `mapError`, which
  carries a step into a wider type of errors;
* `Consumer.many`: the loop over a source -- it gathers the items that a step answers, until the
  step answers none;
* `Consumer.items`, `Consumer.loop`: the same where every round takes an item and runs the step that
  it selects; `items` gathers the answers of the steps, `loop` passes a state from step to step.

The bound is what makes the loops total: a round that takes an item and then runs an arbitrary step
has made progress whatever the step did.
-/

namespace Verdict

/-- A kind of source that is read front to back; `size` counts what is still unread. -/
class Source (σ : Type) where
  size : σ → Nat

instance {α : Type} : Source (List α) := ⟨List.length⟩

/-- One reading step: its answer or error, and the source it leaves, which is also there after an
    error. It never gives back more than it got. -/
structure Consumer (σ : Type) [Source σ] (ε α : Type) where
  run : σ → Except ε α × σ
  size_le : ∀ s, Source.size (run s).2 ≤ Source.size s

namespace Consumer

variable {σ ε ε' α β : Type} [Source σ]

/-- The step that answers `a` and reads nothing. -/
protected def pure (a : α) : Consumer σ ε α where
  run s := (.ok a, s)
  size_le _ := Nat.le_refl _

/-- Runs `x`, then the step its answer selects; an error of `x` ends the sequence there. -/
protected def bind (x : Consumer σ ε α) (f : α → Consumer σ ε β) : Consumer σ ε β where
  run s := match x.run s with
    | (.ok a, rest) => (f a).run rest
    | (.error e, rest) => (.error e, rest)
  size_le s := by
    have hx := x.size_le s
    split
    · rename_i a rest h
      rw [h] at hx
      exact Nat.le_trans ((f a).size_le rest) hx
    · rename_i e rest h
      rwa [h] at hx

instance : Monad (Consumer σ ε) where
  pure := Consumer.pure
  bind := Consumer.bind

/-- The step that fails with `e` and reads nothing. -/
def fail (e : ε) : Consumer σ ε α where
  run s := (.error e, s)
  size_le _ := Nat.le_refl _

/-- The step that answers or fails as `r` does and reads nothing. -/
def ofExcept (r : Except ε α) : Consumer σ ε α where
  run s := (r, s)
  size_le _ := Nat.le_refl _

/-- The source as it stands, left as it is. -/
def remaining : Consumer σ ε σ where
  run s := (.ok s, s)
  size_le _ := Nat.le_refl _

/-- Carries the errors of a step into another type. -/
def mapError (f : ε → ε') (x : Consumer σ ε α) : Consumer σ ε' α where
  run s := match x.run s with
    | (.ok a, rest) => (.ok a, rest)
    | (.error e, rest) => (.error (f e), rest)
  size_le s := by
    have hx := x.size_le s
    split <;> rename_i h <;> rwa [h] at hx

/-- A step that shortens the source whenever it answers. -/
def Advances (x : Consumer σ ε α) : Prop :=
  ∀ s a rest, x.run s = (.ok a, rest) → Source.size rest < Source.size s

/-- A step that shortens the source whenever it answers an item. -/
def Yields (x : Consumer σ ε (Option β)) : Prop :=
  ∀ s b rest, x.run s = (.ok (some b), rest) → Source.size rest < Source.size s

/-- The items that a step answers, in order, until it answers none. -/
def runMany (item : Consumer σ ε (Option β)) (yields : item.Yields) (s : σ) :
    Except ε (List β) × σ :=
  match _read : item.run s with
  | (.error e, rest) => (.error e, rest)
  | (.ok none, rest) => (.ok [], rest)
  | (.ok (some b), rest) =>
    match runMany item yields rest with
    | (.error e, rest') => (.error e, rest')
    | (.ok bs, rest') => (.ok (b :: bs), rest')
termination_by Source.size s
decreasing_by exact yields s b rest _read

theorem size_runMany_le (item : Consumer σ ε (Option β)) (yields : item.Yields) (s : σ) :
    Source.size (runMany item yields s).2 ≤ Source.size s := by
  have size_rest : ∀ {s rest : σ} {r : Except ε (Option β)}, item.run s = (r, rest) →
      Source.size rest ≤ Source.size s := by
    intro s rest r h
    have := item.size_le s
    rwa [h] at this
  fun_induction runMany item yields s with
  | case1 s e rest h => exact size_rest h
  | case2 s rest h => exact size_rest h
  | case3 s b rest h e rest' h' ih =>
    rw [h'] at ih
    exact Nat.le_trans ih (size_rest h)
  | case4 s b rest h bs rest' h' ih =>
    rw [h'] at ih
    exact Nat.le_trans ih (size_rest h)

/-- The loop over a source: the items that a step answers, until it answers none. -/
def many (item : Consumer σ ε (Option β)) (yields : item.Yields) : Consumer σ ε (List β) where
  run := runMany item yields
  size_le := size_runMany_le item yields

theorem bind_yields {take : Consumer σ ε α} (advances : take.Advances)
    (step : α → Consumer σ ε (Option β)) : Yields (Consumer.bind take step) := by
  intro s b rest h
  simp only [Consumer.bind] at h
  split at h
  · rename_i a rest' h'
    have := (step a).size_le rest'
    rw [h] at this
    exact Nat.lt_of_le_of_lt this (advances s a rest' h')
  · simp at h

/-- The loop over a source that takes an item in every round: runs the step that each selects, until
    a step answers none. -/
def items (take : Consumer σ ε α) (advances : take.Advances)
    (step : α → Consumer σ ε (Option β)) : Consumer σ ε (List β) :=
  many (Consumer.bind take step) (bind_yields advances step)

/-- Takes items and passes a state from step to step, until a step answers with a result. -/
def runLoop {γ : Type} (take : Consumer σ ε α) (advances : take.Advances)
    (step : γ → α → Consumer σ ε (γ ⊕ β)) (state : γ) (s : σ) : Except ε β × σ :=
  match _taken : take.run s with
  | (.error e, rest) => (.error e, rest)
  | (.ok a, rest) =>
    match _stepped : (step state a).run rest with
    | (.error e, rest') => (.error e, rest')
    | (.ok (.inr b), rest') => (.ok b, rest')
    | (.ok (.inl state'), rest') => runLoop take advances step state' rest'
termination_by Source.size s
decreasing_by
  have shorter := advances s a rest _taken
  have notLonger := (step state a).size_le rest
  rw [_stepped] at notLonger
  exact Nat.lt_of_le_of_lt notLonger shorter

theorem size_runLoop_le {γ : Type} (take : Consumer σ ε α) (advances : take.Advances)
    (step : γ → α → Consumer σ ε (γ ⊕ β)) (state : γ) (s : σ) :
    Source.size (runLoop take advances step state s).2 ≤ Source.size s := by
  have size_rest : ∀ {s rest : σ} {a : α}, take.run s = (.ok a, rest) →
      Source.size rest ≤ Source.size s := fun h => Nat.le_of_lt (advances _ _ _ h)
  have size_step : ∀ {state : γ} {rest rest' : σ} {a : α} {r : Except ε (γ ⊕ β)},
      (step state a).run rest = (r, rest') → Source.size rest' ≤ Source.size rest := by
    intro state rest rest' a r h
    have := (step state a).size_le rest
    rwa [h] at this
  fun_induction runLoop take advances step state s with
  | case1 state s e rest h =>
    have := take.size_le s
    rwa [h] at this
  | case2 state s a rest h e rest' h' => exact Nat.le_trans (size_step h') (size_rest h)
  | case3 state s a rest h b rest' h' => exact Nat.le_trans (size_step h') (size_rest h)
  | case4 state s a rest h state' rest' h' ih =>
    exact Nat.le_trans ih (Nat.le_trans (size_step h') (size_rest h))

/-- The loop over a source with a state: takes items and passes the state from step to step, until a
    step answers with a result. -/
def loop {γ : Type} (take : Consumer σ ε α) (advances : take.Advances)
    (step : γ → α → Consumer σ ε (γ ⊕ β)) (state : γ) : Consumer σ ε β where
  run := runLoop take advances step state
  size_le := size_runLoop_le take advances step state

/-! ## The equations of a run -/

@[simp] theorem run_pure (a : α) (s : σ) : (pure a : Consumer σ ε α).run s = (.ok a, s) := rfl

@[simp] theorem run_fail (e : ε) (s : σ) : (fail e : Consumer σ ε α).run s = (.error e, s) := rfl

@[simp] theorem run_ofExcept (r : Except ε α) (s : σ) :
    (ofExcept r : Consumer σ ε α).run s = (r, s) := rfl

@[simp] theorem run_remaining (s : σ) : (remaining : Consumer σ ε σ).run s = (.ok s, s) := rfl

theorem run_bind (x : Consumer σ ε α) (f : α → Consumer σ ε β) (s : σ) :
    (x >>= f).run s = match x.run s with
      | (.ok a, rest) => (f a).run rest
      | (.error e, rest) => (.error e, rest) := rfl

theorem run_bind_of_ok {x : Consumer σ ε α} {s rest : σ} {a : α} (h : x.run s = (.ok a, rest))
    (f : α → Consumer σ ε β) : (x >>= f).run s = (f a).run rest := by
  rw [run_bind, h]

theorem run_bind_of_error {x : Consumer σ ε α} {s rest : σ} {e : ε}
    (h : x.run s = (.error e, rest)) (f : α → Consumer σ ε β) :
    (x >>= f).run s = (.error e, rest) := by
  rw [run_bind, h]

theorem run_mapError (f : ε → ε') (x : Consumer σ ε α) (s : σ) :
    (mapError f x).run s = match x.run s with
      | (.ok a, rest) => (.ok a, rest)
      | (.error e, rest) => (.error (f e), rest) := rfl

/-- One round of the loop over a source. -/
theorem run_many (item : Consumer σ ε (Option β)) (yields : item.Yields) (s : σ) :
    (many item yields).run s = match item.run s with
      | (.error e, rest) => (.error e, rest)
      | (.ok none, rest) => (.ok [], rest)
      | (.ok (some b), rest) =>
        match (many item yields).run rest with
        | (.error e, rest') => (.error e, rest')
        | (.ok bs, rest') => (.ok (b :: bs), rest') := by
  show runMany item yields s = _
  rw [runMany]
  split <;> rename_i h <;> simp only [h]
  rfl

/-- One round of the loop over a source that takes an item in every round. -/
theorem run_items (take : Consumer σ ε α) (advances : take.Advances)
    (step : α → Consumer σ ε (Option β)) (s : σ) :
    (items take advances step).run s = match take.run s with
      | (.error e, rest) => (.error e, rest)
      | (.ok a, rest) =>
        match (step a).run rest with
        | (.error e, rest') => (.error e, rest')
        | (.ok none, rest') => (.ok [], rest')
        | (.ok (some b), rest') =>
          match (items take advances step).run rest' with
          | (.error e, rest'') => (.error e, rest'')
          | (.ok bs, rest'') => (.ok (b :: bs), rest'') := by
  rw [items, run_many]
  simp only [Consumer.bind]
  split <;> rename_i h <;> split at h <;> simp_all

/-- One round of the loop over a source with a state. -/
theorem run_loop {γ : Type} (take : Consumer σ ε α) (advances : take.Advances)
    (step : γ → α → Consumer σ ε (γ ⊕ β)) (state : γ) (s : σ) :
    (loop take advances step state).run s = match take.run s with
      | (.error e, rest) => (.error e, rest)
      | (.ok a, rest) =>
        match (step state a).run rest with
        | (.error e, rest') => (.error e, rest')
        | (.ok (.inr b), rest') => (.ok b, rest')
        | (.ok (.inl state'), rest') => (loop take advances step state').run rest' := by
  show runLoop take advances step state s = _
  rw [runLoop]
  split <;> rename_i h <;> simp only [h]
  split <;> rename_i h' <;> simp only [h']
  rfl

end Consumer

end Verdict
