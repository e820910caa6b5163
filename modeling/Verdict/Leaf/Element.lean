import Verdict.Document.Source
import Verdict.Matcher.Error

/-!
# Reading the element of a leaf

* `LeafElement`: the name and the attributes of an element whose opening tag was read;
* `attribute?`, `required`, `only`, `flag`: what a leaf asks of its attributes;
* `LeafElement.text`: the text at the start of its body;
* `LeafElement.children`: child elements of one name, in a row;
* `LeafError`: why a leaf can be neither read nor written.
-/

namespace Verdict

/-- Why a leaf cannot be read or written. -/
inductive LeafError where
  | document (error : DocumentError)
  | matcher (error : MatcherError)
  /-- A reason of the leaf's own. -/
  | other (message : String)
  deriving DecidableEq

/-- The text of an error. -/
def LeafError.message : LeafError → String
  | .document error => error.message
  | .matcher error => error.message
  | .other message => message

instance : MonadLift (TokenReader DocumentError) (TokenReader LeafError) :=
  ⟨Consumer.mapError .document⟩

/-- The opening tag of a leaf. -/
structure LeafElement where
  tag : String
  attributes : List Attribute

namespace LeafElement

/-- The value of the first attribute with this name. -/
def attribute? (e : LeafElement) (name : String) : Option String :=
  (e.attributes.find? fun a => a.name == name).map (·.value)

/-- The value of an attribute that must be there. -/
def required (e : LeafElement) (name : String) : Except DocumentError String :=
  match e.attribute? name with
  | some value => .ok value
  | none => .error (.missingAttribute e.tag name)

/-- Fails at the first attribute whose name is not among `known`. -/
def only (e : LeafElement) (known : List String) : Except DocumentError Unit :=
  match e.attributes.find? fun a => !known.contains a.name with
  | some a => .error (.unknownAttribute e.tag a.name)
  | none => .ok ()

/-- A yes-or-no attribute, written `true` or `false`; `absent` when it is not there. -/
def flag (e : LeafElement) (name : String) (absent : Bool) : Except DocumentError Bool :=
  match e.attribute? name with
  | none => .ok absent
  | some value =>
    if value = "true" then .ok true
    else if value = "false" then .ok false
    else .error (.invalidAttribute e.tag name value)

/-- The texts ahead, joined; none when no text is ahead. -/
def text : TokenReader DocumentError (Option String) := do
  match ← TokenReader.peek with
  | some (.text _) => return some (← TokenReader.readText)
  | _ => return none

/-- Takes the opening tag ahead if its name is `tag`. -/
def takeOpening (tag : String) : TokenReader DocumentError Bool where
  run s := match TokenReader.peek.run s with
    | (.error e, rest) => (.error e, rest)
    | (.ok (some (.opening name _)), rest) =>
      if name = tag then (.ok true, rest.advance) else (.ok false, rest)
    | (.ok _, rest) => (.ok false, rest)
  size_le s := by
    have h := TokenReader.peek.size_le s
    split <;> rename_i hs <;> rw [hs] at h
    · exact h
    · split
      · exact Nat.le_trans (TokenSource.length_advance_le _) h
      · exact h
    · exact h

theorem takeOpening_shortens {tag : String} {s rest : TokenSource}
    (h : (takeOpening tag).run s = (.ok true, rest)) :
    Source.size rest < Source.size s := by
  obtain ⟨tokens, breakdown⟩ := s
  simp only [takeOpening, TokenReader.peek] at h
  split at h
  · simp at h
  · rename_i name attributes ahead hs
    split at hs
    · simp at hs
    · cases tokens with
      | nil => simp at hs
      | cons head tail =>
        simp only [Prod.mk.injEq] at hs
        split at h
        · simp only [Prod.mk.injEq, true_and] at h
          rw [← h, ← hs.2]
          simp [TokenSource.advance]
        · simp at h
  · simp at h

/-- One child element whose name is `tag`, if it is ahead. -/
def child? {α : Type} (tag : String) (child : TokenReader LeafError α) :
    TokenReader LeafError (Option α) := do
  if ← takeOpening tag then return some (← child) else return none

theorem child?_yields {α : Type} (tag : String) (child : TokenReader LeafError α) :
    (child? tag child).Yields := by
  intro s a rest h
  rw [child?, Consumer.run_bind] at h
  split at h
  · rename_i opened body lifted
    have opens : (takeOpening tag).run s = (.ok opened, body) := by
      simp only [liftM, monadLift, MonadLift.monadLift, Consumer.run_mapError] at lifted
      split at lifted <;> simp_all
    cases opened with
    | false => simp at h
    | true =>
      have shorter := takeOpening_shortens opens
      simp only [if_true, Consumer.run_bind] at h
      have notLonger := child.size_le body
      split at h
      · rename_i b behind hb
        simp only [Consumer.run_pure, Prod.mk.injEq] at h
        rw [hb, h.2] at notLonger
        exact Nat.lt_of_le_of_lt notLonger shorter
      · simp at h
  · simp at h

/-- The child elements ahead whose name is `tag`; `child` reads one behind its opening tag. -/
def children {α : Type} (tag : String) (child : TokenReader LeafError α) :
    TokenReader LeafError (List α) :=
  Consumer.many (child? tag child) (child?_yields tag child)

end LeafElement

end Verdict
