import Verdict.Condition.Writing
import Verdict.Proofs.Sink

/-!
# What a condition is written as

* `Output`: the tokens that are put out, and how the writing ends without regard to the sink;
* `Condition.output`: the output of a tree, by recursion on the tree;
* **`writeTo_eq_put`**: writing a tree is putting its output into the sink;
* `Condition.tokens?`: the tokens of a tree, by recursion on the tree, or why it has none;
* `toTokens_eq_tokens?`: the tokens that the collecting sink holds in the end.
-/

namespace Verdict

open Condition (emit)

/-- Tokens that are put out one by one, and how the writing ends if the sink takes them all. -/
structure Output where
  tokens : List Token
  ending : Except WriteError Unit

namespace Output

variable {σ : Type}

/-- Tokens that are made before the first of them is put out. -/
def ofTokens : Except WriteError (List Token) → Output
  | .error e => ⟨[], .error e⟩
  | .ok tokens => ⟨tokens, .ok ()⟩

/-- One output after another; nothing comes after an error. -/
def andThen (a b : Output) : Output :=
  match a.ending with
  | .error e => ⟨a.tokens, .error e⟩
  | .ok () => ⟨a.tokens ++ b.tokens, b.ending⟩

/-- The tokens, if the output comes to its end, or why it does not. -/
def whole (o : Output) : Except WriteError (List Token) := o.ending.map fun _ => o.tokens

/-- Puts an output into a sink. -/
def put (sink : Sink σ) (o : Output) : Writing σ WriteError Unit := do
  o.tokens.forM (emit sink)
  ofExcept o.ending

theorem whole_eq_ok_iff {o : Output} {tokens : List Token} :
    o.whole = .ok tokens ↔ o.ending = .ok () ∧ o.tokens = tokens := by
  obtain ⟨held, _ | _⟩ := o <;> simp [whole, Except.map]

theorem eq_of_whole {o : Output} {tokens : List Token} (h : o.whole = .ok tokens) :
    o = ⟨tokens, .ok ()⟩ := by
  obtain ⟨hending, rfl⟩ := whole_eq_ok_iff.mp h
  rw [← hending]

theorem whole_ofTokens (tokens : Except WriteError (List Token)) :
    (ofTokens tokens).whole = tokens := by
  cases tokens <;> rfl

theorem whole_andThen (a b : Output) : (a.andThen b).whole = do
    let first ← a.whole
    let others ← b.whole
    return first ++ others := by
  obtain ⟨first, _ | _⟩ := a <;> obtain ⟨others, _ | _⟩ := b <;> rfl

theorem andThen_assoc (a b c : Output) :
    (a.andThen b).andThen c = a.andThen (b.andThen c) := by
  obtain ⟨_, _ | _⟩ := a <;> obtain ⟨_, _ | _⟩ := b <;> simp [andThen]

theorem put_ofTokens_ok (sink : Sink σ) (tokens : List Token) :
    (ofTokens (.ok tokens)).put sink = tokens.forM (emit sink) :=
  bind_pure (tokens.forM (emit sink))

theorem put_ofTokens_error (sink : Sink σ) (e : WriteError) :
    (ofTokens (.error e)).put sink = throw e := rfl

theorem put_singleton (sink : Sink σ) (token : Token) :
    (ofTokens (.ok [token])).put sink = emit sink token := by
  rw [put_ofTokens_ok]
  exact bind_pure (emit sink token)

/-- One output after another is put into a sink as they come. -/
theorem put_andThen (sink : Sink σ) (a b : Output) :
    (a.andThen b).put sink = (a.put sink >>= fun _ => b.put sink) := by
  obtain ⟨first, e | _⟩ := a
  · have hthrow : ((throw e : Writing σ WriteError Unit) >>= fun _ => b.put sink) = throw e := rfl
    show (first.forM (emit sink) >>= fun _ => throw e) =
      ((first.forM (emit sink) >>= fun _ => throw e) >>= fun _ => b.put sink)
    rw [bind_assoc, hthrow]
  · show ((first ++ b.tokens).forM (emit sink) >>= fun _ => ofExcept b.ending) =
      ((first.forM (emit sink) >>= fun _ => pure ()) >>= fun _ => b.put sink)
    simp [put]

/-- Tokens are put out with the error of the sink as the error of writing. -/
theorem result_forM_emit (sink : Sink σ) (tokens : List Token) (s : σ) :
    (tokens.forM (emit sink)).result s =
      (((tokens.forM sink).result s).1.mapError .document, ((tokens.forM sink).result s).2) := by
  induction tokens generalizing s with
  | nil => rfl
  | cons token rest ih =>
    rw [Writing.result_forM_cons, Writing.result_forM_cons, Writing.result_bind,
      Writing.result_bind, emit, Writing.result_mapError]
    rcases (sink token).result s with ⟨e | _, s'⟩
    · rfl
    · exact ih s'

/-- A sink that takes all of the tokens leaves the ending as it is. -/
theorem result_put {sink : Sink σ} {o : Output} {s s' : σ}
    (h : (o.tokens.forM sink).result s = (.ok (), s')) :
    (o.put sink).result s = (o.ending, s') := by
  have hemit : (o.tokens.forM (emit sink)).result s = (.ok (), s') := by
    rw [result_forM_emit, h]
    rfl
  rw [put, Writing.result_bind_of_ok hemit]
  cases o.ending <;> rfl

end Output

/-- The collecting sink holds all of the tokens. -/
theorem Sink.result_forM_collect (tokens held : List Token) :
    (tokens.forM Sink.collect).result held = (.ok (), held ++ tokens) := by
  induction tokens generalizing held with
  | nil => rw [List.append_nil]; rfl
  | cons token tokens ih =>
    have hcollect : (Sink.collect token).result held = (.ok (), held ++ [token]) := rfl
    rw [Writing.result_forM_cons, Writing.result_bind_of_ok hcollect, ih, List.append_assoc]
    rfl

namespace Condition

variable {P σ : Type} [LeafCodec P]

/-! ## 1. Output -/

mutual

/-- What writing a tree puts out. -/
def output : Condition P → Output
  | leaf p => .ofTokens (leafTokens p)
  | composite junction children =>
    (Output.ofTokens (.ok [.opening junction.tag []])).andThen
      ((outputAll children).andThen (.ofTokens (.ok [.closing])))

/-- What writing several trees puts out. -/
def outputAll : List (Condition P) → Output
  | [] => .ofTokens (.ok [])
  | c :: rest => c.output.andThen (outputAll rest)

end

theorem outputAll_append (as bs : List (Condition P)) :
    outputAll (as ++ bs) = (outputAll as).andThen (outputAll bs) := by
  induction as with
  | nil => rfl
  | cons c rest ih => rw [List.cons_append, outputAll, outputAll, ih, Output.andThen_assoc]

mutual

/-- **Writing a tree is putting its output into the sink.** -/
theorem writeTo_eq_put (sink : Sink σ) (c : Condition P) :
    c.writeTo sink = c.output.put sink := by
  match c with
  | leaf p =>
    rw [writeTo, output]
    cases leafTokens p with
    | error e => exact (Output.put_ofTokens_error sink e).symm
    | ok tokens => exact (Output.put_ofTokens_ok sink tokens).symm
  | composite junction children =>
    rw [writeTo, output, Output.put_andThen, Output.put_andThen, Output.put_singleton,
      Output.put_singleton, writeAllTo_eq_put sink children]

theorem writeAllTo_eq_put (sink : Sink σ) (cs : List (Condition P)) :
    writeAllTo sink cs = (outputAll cs).put sink := by
  match cs with
  | [] => rfl
  | c :: rest =>
    rw [writeAllTo, outputAll, Output.put_andThen, writeTo_eq_put sink c,
      writeAllTo_eq_put sink rest]

end

/-! ## 2. Tokens -/

mutual

/-- The tokens of a tree, or why it has none. -/
def tokens? : Condition P → Except WriteError (List Token)
  | leaf p => leafTokens p
  | composite junction children => do
    let body ← tokensAll? children
    return .opening junction.tag [] :: body ++ [.closing]

/-- The tokens of several trees, in order. -/
def tokensAll? : List (Condition P) → Except WriteError (List Token)
  | [] => return []
  | c :: rest => do
    let first ← c.tokens?
    let others ← tokensAll? rest
    return first ++ others

end

/-- The tokens of a composite are those of its children, between its two ends. -/
theorem tokens?_composite_eq_ok_iff {junction : Junction} {children : List (Condition P)}
    {tokens : List Token} : (composite junction children).tokens? = .ok tokens ↔
      ∃ body, tokensAll? children = .ok body ∧
        tokens = .opening junction.tag [] :: body ++ [.closing] := by
  rw [tokens?]
  cases tokensAll? children with
  | error e => simp [bind, Except.bind]
  | ok body => simp [bind, Except.bind, pure, Except.pure, eq_comm]

theorem tokensAll?_cons_eq_ok_iff {c : Condition P} {rest : List (Condition P)}
    {tokens : List Token} : tokensAll? (c :: rest) = .ok tokens ↔
      ∃ first others, c.tokens? = .ok first ∧ tokensAll? rest = .ok others ∧
        tokens = first ++ others := by
  rw [tokensAll?]
  cases c.tokens? with
  | error e => simp [bind, Except.bind]
  | ok first =>
    cases tokensAll? rest with
    | error e => simp [bind, Except.bind]
    | ok others => simp [bind, Except.bind, pure, Except.pure, eq_comm]

mutual

/-- A tree has its tokens if its output comes to an end. -/
theorem whole_output (c : Condition P) : c.output.whole = c.tokens? := by
  match c with
  | leaf p => exact Output.whole_ofTokens (leafTokens p)
  | composite junction children =>
    rw [output, tokens?, Output.whole_andThen, Output.whole_andThen, Output.whole_ofTokens,
      Output.whole_ofTokens, whole_outputAll children]
    cases tokensAll? children <;> rfl

theorem whole_outputAll (cs : List (Condition P)) : (outputAll cs).whole = tokensAll? cs := by
  match cs with
  | [] => rfl
  | c :: rest =>
    rw [outputAll, tokensAll?, Output.whole_andThen, whole_output c, whole_outputAll rest]

end

/-- The tokens of a tree are collected in order. -/
theorem toTokens_eq_tokens? (c : Condition P) : c.toTokens = c.tokens? := by
  rw [toTokens, writeTo_eq_put, Output.result_put (Sink.result_forM_collect _ []),
    ← whole_output, Output.whole]
  cases c.output.ending <;> rfl

/-- The collecting sink holds the tokens of a tree behind what it held before. -/
theorem result_writeTo_collect {c : Condition P} {tokens : List Token} (h : c.tokens? = .ok tokens)
    (held : List Token) : (c.writeTo Sink.collect).result held = (.ok (), held ++ tokens) := by
  rw [← whole_output] at h
  obtain ⟨hending, rfl⟩ := Output.whole_eq_ok_iff.mp h
  rw [writeTo_eq_put, Output.result_put (Sink.result_forM_collect _ held), hending]

theorem toTokens_eq_ok {c : Condition P} {tokens : List Token} (h : c.tokens? = .ok tokens) :
    c.toTokens = .ok tokens :=
  (toTokens_eq_tokens? c).trans h

end Condition

end Verdict
