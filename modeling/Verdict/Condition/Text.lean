import Verdict.Condition.Reading
import Verdict.Document.Grammar

/-!
# Conditions as text documents

* `TextError`: why a text holds no condition;
* `Condition.ofText`: the condition of a text document.
-/

namespace Verdict

/-- Why a text holds no condition. -/
inductive TextError where
  | document (error : DocumentError)
  | read (error : ReadError)
  deriving DecidableEq

/-- The text of an error. -/
def TextError.message : TextError → String
  | .document error => error.message
  | .read error => error.message

/-- The condition of a text document, read under a registry. -/
def Condition.ofText {P : Type} (registry : Registry P) (text : String) :
    Except TextError (Condition P) := do
  let tokens ← (parse text).mapError TextError.document
  ((Reader.read { registry }).run (.ofTokens tokens)).1.mapError TextError.read

end Verdict
