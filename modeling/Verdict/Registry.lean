import Verdict.Condition.Basic
import Verdict.Leaf.Codec
import Verdict.Text.Quoted

/-!
# The statements of a document

A registry says what each tag of a document stands for and which tags may stand directly below
which. It is made by a sequence of steps from `bare` (the composites `allOf` and `anyOf`) or
`standard` (also the leaf `condition`).

* `Statement`: a composite, or a leaf with the step that reads it;
* `Registry`: both tables, the latest entry of a tag first -- look-ups see the latest;
* `registerLeaf`, `registerComposite`, `allow`: the three steps;
* `Registry.find?`, `allowedChildren`: what the reader asks.
-/

namespace Verdict

/-- The tag of the leaf that every registry has in mind. -/
def conditionTag : String := "condition"

/-- The tags that are permitted in every composite. -/
def builtInTags : List String := [conditionTag, Junction.all.tag, Junction.any.tag]

/-- How the element of a leaf is read: its opening tag was read, its end is left. -/
abbrev LeafReader (P : Type) := LeafElement → TokenReader LeafError P

/-- What a tag stands for. -/
inductive Statement (P : Type) where
  | composite (junction : Junction)
  | leaf (read : LeafReader P)

/-- A statement in one line. -/
def Statement.display {P : Type} : Statement P → String
  | .composite .all => "Junction(All)"
  | .composite .any => "Junction(Any)"
  | .leaf _ => "Leaf(..)"

/-- What the tags of a document stand for, and which tags may stand directly below which. In both
    tables the first entry of a tag counts. -/
structure Registry (P : Type) where
  statements : List (String × Statement P)
  permissions : List (String × List String)

namespace Registry

variable {P : Type}

/-! ## 1. Questions -/

/-- What a tag stands for, if it is registered. -/
def find? (r : Registry P) (tag : String) : Option (Statement P) := r.statements.lookup tag

/-- Whether a tag is registered. -/
def contains (r : Registry P) (tag : String) : Bool := (r.find? tag).isSome

/-- The tags that may stand directly below `parent`, in the order of their registration. -/
def allowedChildren (r : Registry P) (parent : String) : List String :=
  (r.permissions.lookup parent).getD []

/-- Whether `tag` may stand directly below `parent`. -/
def isAllowedChild (r : Registry P) (parent tag : String) : Bool :=
  (r.allowedChildren parent).contains tag

/-- The registered tags, sorted. -/
def tags (r : Registry P) : List String :=
  (r.statements.map (·.1)).eraseDups.mergeSort fun a b => decide (a ≤ b)

/-- The registered tags in one line. -/
def display (r : Registry P) : String :=
  "StatementRegistry \x7b statements: [" ++ String.intercalate ", " (r.tags.map Text.quoted) ++ "]"

/-! ## 2. Steps -/

/-- Puts the tags at the end of a list that are not in it yet, in order. -/
def appendNew (tags : List String) : List String → List String
  | [] => tags
  | tag :: rest => appendNew (if tags.contains tag then tags else tags ++ [tag]) rest

/-- Permits tags directly below `parent`, behind those that are permitted already. -/
def allowAll (r : Registry P) (parent : String) (children : List String) : Registry P :=
  { r with permissions := (parent, appendNew (r.allowedChildren parent) children) :: r.permissions }

/-- Permits `child` directly below `parent`. -/
def allow (r : Registry P) (parent child : String) : Registry P := r.allowAll parent [child]

/-- Makes a tag a composite, in which the built-in tags are permitted. -/
def insertComposite (r : Registry P) (tag : String) (junction : Junction) : Registry P :=
  ({ r with statements := (tag, .composite junction) :: r.statements }).allowAll tag builtInTags

/-- Makes a tag a leaf. The built-in composites stay what they are. -/
def registerLeaf (r : Registry P) (tag : String) (read : LeafReader P) : Registry P :=
  if tag = Junction.all.tag ∨ tag = Junction.any.tag then r
  else { r with statements := (tag, .leaf read) :: r.statements }

/-- Makes a tag a composite. The built-in tags stay what they are. -/
def registerComposite (r : Registry P) (tag : String) (junction : Junction) : Registry P :=
  if tag ∈ builtInTags then r else r.insertComposite tag junction

/-! ## 3. Starting points -/

/-- The registry of the composites `allOf` and `anyOf`. -/
def bare : Registry P :=
  ((⟨[], []⟩ : Registry P).insertComposite Junction.all.tag .all).insertComposite
    Junction.any.tag .any

/-- The registry of `allOf`, `anyOf` and `condition`, which is read as the leaf type says. -/
def standard [LeafCodec P] : Registry P := bare.registerLeaf conditionTag LeafCodec.read

end Registry

end Verdict
