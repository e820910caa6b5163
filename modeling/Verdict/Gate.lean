import Verdict.Condition.Evaluation
import Verdict.Condition.Reading
import Verdict.Condition.Writing

/-!
# Gates

A gate guards a branch: it passes when its condition holds, or, for the other kind, when it does
not.

* `GateKind`, `Gate`: the two kinds, and a kind with a condition;
* `Gate.passes`: whether the branch runs;
* `Gate.read`, `Gate.writeTo`: the element of a gate, which holds exactly one condition.
-/

namespace Verdict

/-- When a gate passes. -/
inductive GateKind where
  /-- When its condition holds. -/
  | whenTrue
  /-- When its condition does not hold. -/
  | whenFalse
  deriving DecidableEq

namespace GateKind

/-- The tag of a kind of gate. -/
def tag : GateKind → String
  | whenTrue => "if"
  | whenFalse => "ifNot"

/-- The kind of gate with this tag. -/
def ofTag? (tag : String) : Option GateKind :=
  if tag = whenTrue.tag then some whenTrue
  else if tag = whenFalse.tag then some whenFalse
  else none

end GateKind

/-- A guard of a branch. -/
structure Gate (P : Type) where
  kind : GateKind
  condition : Condition P

namespace Gate

variable {P : Type}

instance [BEq P] : BEq (Gate P) := ⟨fun a b => a.kind == b.kind && a.condition == b.condition⟩

/-- Whether the guarded branch runs. -/
def passes {m : Type → Type} [Monad m] (test : P → m Bool) (g : Gate P) : m Bool := do
  let holds ← g.condition.evaluate test
  return match g.kind with
    | .whenTrue => holds
    | .whenFalse => !holds

/-- What is missing where a gate should begin. -/
def openingExpected : String := s!"<{GateKind.whenTrue.tag}> or <{GateKind.whenFalse.tag}>"

/-- The next gate, with blank text before it; the tokens after it are left. Its condition is on the
    second level. -/
def read (r : Reader P) : TokenReader ReadError (Gate P) := do
  TokenReader.skipBlankText
  match ← TokenReader.next with
  | some (.opening name _) =>
    match GateKind.ofTag? name with
    | none => Consumer.fail (.unknownStatement name)
    | some kind =>
      match ← r.readWithin name builtInTags with
      | [condition] => return ⟨kind, condition⟩
      | conditions => Consumer.fail (.gateArity name conditions.length)
  | some found => Consumer.fail (.document (.unexpectedToken found openingExpected))
  | none => Consumer.fail (.document (.unexpectedEnd openingExpected))

/-- Writes the element of a gate into a sink. -/
def writeTo {σ : Type} [LeafCodec P] (sink : Sink σ) (g : Gate P) : Writing σ WriteError Unit := do
  Condition.emit sink (.opening g.kind.tag [])
  g.condition.writeTo sink
  Condition.emit sink .closing

end Gate

end Verdict
