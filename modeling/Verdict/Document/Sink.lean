import Verdict.Document.Error

/-!
# Writing tokens

* `Sink σ`: what takes the tokens of a document one by one; each call may fail, and what the sink
  holds by then stays;
* `Sink.collect`: the sink that keeps every token;
* `Sink.limited`: the sink that keeps as many tokens as it has room for.
-/

namespace Verdict

/-- A writing step over a state `σ`, which is also there after an error. -/
abbrev Writing (σ ε α : Type) := ExceptT ε (StateM σ) α

/-- What takes the tokens of a document, in order. -/
abbrev Sink (σ : Type) := Token → Writing σ DocumentError Unit

namespace Writing

variable {σ ε ε' α : Type}

/-- Runs a writing step on a state: its answer or error, and the state it leaves. -/
def result (x : Writing σ ε α) (s : σ) : Except ε α × σ := x.run.run s

/-- Carries the errors of a step into another type. -/
def mapError (f : ε → ε') (x : Writing σ ε α) : Writing σ ε' α := x.adapt f

end Writing

namespace Sink

/-- Keeps every token, at the back. -/
def collect : Sink (List Token) := fun token => modify (· ++ [token])

/-- Keeps tokens at the back until it holds `room` of them, and answers `full` from then on. -/
def limited (room : Nat) (full : DocumentError) : Sink (List Token) := fun token => do
  if (← get).length < room then collect token else throw full

end Sink

end Verdict
