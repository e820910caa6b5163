import Verdict.Condition.Basic
import Verdict.Document.Layout
import Verdict.Leaf.Codec

/-!
# Writing a condition

A composite is an element named after its junction, with its children in order; a leaf is the
element that its codec makes.

* `WriteError`: why a condition cannot be written;
* `Condition.writeTo`: a condition, token by token, into any sink;
* `Condition.toTokens`, `Condition.toText`: a condition as tokens and as a text document.

The element of a leaf is made in full before its first token is written.
-/

namespace Verdict

/-- Why a condition cannot be written. -/
inductive WriteError where
  /-- The sink refused a token, or the body of a leaf left an element open. -/
  | document (error : DocumentError)
  /-- A leaf has no written form. -/
  | leaf (tag : String) (source : LeafError)
  deriving DecidableEq

/-- The text of an error. -/
def WriteError.message : WriteError → String
  | .document error => error.message
  | .leaf tag source => s!"cannot write <{tag}>: {source.message}"

/-- The tokens of a leaf, or why it has none. -/
def leafTokens {P : Type} [LeafCodec P] (p : P) : Except WriteError (List Token) :=
  match (LeafCodec.write p).result {} with
  | (.error e, _) => .error (.leaf (LeafCodec.tag p) e)
  | (.ok (), draft) =>
    match draft.parts with
    | .error e => .error (.document e)
    | .ok (attributes, body) => .ok (.opening (LeafCodec.tag p) attributes :: body ++ [.closing])

namespace Condition

variable {P σ : Type} [LeafCodec P]

/-- Puts one token into a sink. -/
def emit (sink : Sink σ) (token : Token) : Writing σ WriteError Unit :=
  (sink token).mapError .document

mutual

/-- Writes a condition into a sink, and stops at the first thing that fails. -/
def writeTo (sink : Sink σ) : Condition P → Writing σ WriteError Unit
  | leaf p =>
    match leafTokens p with
    | .error e => throw e
    | .ok tokens => tokens.forM (emit sink)
  | composite junction children => do
    emit sink (.opening junction.tag [])
    writeAllTo sink children
    emit sink .closing

/-- Writes several conditions into a sink, in order. -/
def writeAllTo (sink : Sink σ) : List (Condition P) → Writing σ WriteError Unit
  | [] => pure ()
  | c :: rest => do
    c.writeTo sink
    writeAllTo sink rest

end

/-- The tokens of a condition. -/
def toTokens (c : Condition P) : Except WriteError (List Token) :=
  match (c.writeTo Sink.collect).result [] with
  | (.ok (), tokens) => .ok tokens
  | (.error e, _) => .error e

/-- A condition as a text document. -/
def toText (c : Condition P) : Except WriteError String :=
  match (c.writeTo Layout.put).result {} with
  | (.ok (), layout) => layout.finish.mapError .document
  | (.error e, _) => .error e

end Condition

end Verdict
