import Verdict.Document.Nesting
import Verdict.Document.Sink
import Verdict.Leaf.Element

/-!
# Writing the element of a leaf

* `LeafDraft`: the attributes and the body of a leaf while it is being written. That `depth`
  elements of the body are open is part of the type, so whatever a leaf does, its body never
  closes an element that it did not open;
* `addAttribute`, `put`: adding an attribute, or a token to the body;
* `LeafDraft.parts`: attributes and body, once every element of the body is closed.
-/

namespace Verdict

/-- The attributes and the body of a leaf in the making; `depth` elements of the body are open. -/
structure LeafDraft where
  attributes : List Attribute := []
  body : List Token := []
  depth : Nat := 0
  openAfter_body : openAfter 0 body = some depth := by rfl

namespace LeafDraft

/-- Adds an attribute behind the others. -/
def addAttribute (draft : LeafDraft) (name value : String) : LeafDraft :=
  { draft with attributes := draft.attributes ++ [⟨name, value⟩] }

/-- Adds a token to the body; none for a close that has no element of the body to end. -/
def put? (draft : LeafDraft) (token : Token) : Option LeafDraft :=
  match h : openAfter draft.depth [token] with
  | none => none
  | some depth =>
    some { draft with
      body := draft.body ++ [token]
      depth
      openAfter_body := by rw [openAfter_append, draft.openAfter_body]; exact h }

/-- The draft as a sink; a close that has nothing to end leaves it as it was. -/
def put : Sink LeafDraft := fun token => do
  match (← get).put? token with
  | some draft => set draft
  | none => throw .unbalanced

/-- Attributes and body, once every element of the body is closed. -/
def parts (draft : LeafDraft) : Except DocumentError (List Attribute × List Token) :=
  if draft.depth = 0 then .ok (draft.attributes, draft.body) else .error .unbalanced

end LeafDraft

end Verdict
