import Verdict.Document.Sink

/-!
# Runs of writing steps

What a writing step answers and the state that it leaves, by the shape of the step: `result_pure`,
`result_modify`, `result_bind`, `result_map`, `result_tryCatch`, `result_mapError`, `ite_bind`,
`result_forM_cons`.
-/

namespace Verdict.Writing

variable {σ ε α β : Type}

theorem result_pure (a : α) (s : σ) : (pure a : Writing σ ε α).result s = (.ok a, s) := rfl

theorem result_modify (f : σ → σ) (s : σ) :
    (modify f : Writing σ ε Unit).result s = (.ok (), f s) := rfl

theorem result_bind (x : Writing σ ε α) (f : α → Writing σ ε β) (s : σ) :
    (x >>= f).result s = match x.result s with
      | (.ok a, s') => (f a).result s'
      | (.error e, s') => (.error e, s') := by
  unfold result
  rw [ExceptT.run_bind, StateT.run_bind]
  rcases x.run.run s with ⟨_ | _, s'⟩ <;> rfl

theorem result_bind_of_ok {x : Writing σ ε α} {s s' : σ} {a : α} (h : x.result s = (.ok a, s'))
    (f : α → Writing σ ε β) : (x >>= f).result s = (f a).result s' := by
  rw [result_bind, h]

theorem result_map (f : α → β) (x : Writing σ ε α) (s : σ) :
    (f <$> x).result s = ((x.result s).1.map f, (x.result s).2) := by
  rw [map_eq_pure_bind, result_bind]
  rcases x.result s with ⟨_ | _, s'⟩ <;> rfl

theorem result_tryCatch (x : Writing σ ε α) (handle : ε → Writing σ ε α) (s : σ) :
    (tryCatch x handle).result s = match x.result s with
      | (.ok a, s') => (.ok a, s')
      | (.error e, s') => (handle e).result s' := by
  show (x.run >>= fun answer => match answer with
    | .ok a => pure (.ok a)
    | .error e => (handle e).run : StateM σ (Except ε α)).run s = _
  rw [StateT.run_bind]
  unfold result
  rcases x.run.run s with ⟨_ | _, s'⟩ <;> rfl

theorem result_mapError {ε' : Type} (f : ε → ε') (x : Writing σ ε α) (s : σ) :
    (x.mapError f).result s = ((x.result s).1.mapError f, (x.result s).2) := by
  show ((fun answer : Except ε α => answer.mapError f) <$> x.run).run s = _
  rw [StateT.run_map]
  rfl

/-- A step that is left out unless `c` holds, and the steps behind it. -/
theorem ite_bind {c : Prop} [Decidable c] (x : Writing σ ε Unit) (f : Unit → Writing σ ε β) :
    (if c then x >>= f else f ()) = (if c then x else pure ()) >>= f := by
  split <;> rfl

theorem result_forM_cons (f : α → Writing σ ε Unit) (a : α) (rest : List α) :
    (a :: rest).forM f = (f a >>= fun _ => rest.forM f) := rfl

end Verdict.Writing
