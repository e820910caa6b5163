import Verdict.Registry

/-!
# Reading a condition

A condition is read from a source of tokens under a registry: every tag has to be registered, and
below a composite only the permitted tags may stand. Reading stops at the first error.

* `ReadError`: why a condition cannot be read;
* `Reader`: a registry, and how many levels a condition may have;
* `Reader.element`: an element whose opening tag was read -- recursion on the levels left;
* `Reader.read`, `Reader.readWithin`: a whole condition, and the children of an element that was
  already opened.
-/

namespace Verdict

/-- Why a condition cannot be read. -/
inductive ReadError where
  | document (error : DocumentError)
  /-- No statement has this tag. -/
  | unknownStatement (tag : String)
  /-- The tag may not stand directly below its parent. -/
  | misplaced (tag parent : String) (allowed : List String)
  /-- A leaf could not be built. -/
  | leaf (tag : String) (source : LeafError)
  /-- A gate has none or several conditions. -/
  | gateArity (tag : String) (found : Nat)
  /-- The condition has more levels than the reader takes. -/
  | tooDeep (limit : Nat)
  deriving DecidableEq

/-- The text of an error. -/
def ReadError.message : ReadError → String
  | .document error => error.message
  | .unknownStatement tag => s!"unknown statement <{tag}>"
  | .misplaced tag parent allowed =>
    let permitted := String.intercalate ", " (allowed.map fun t => s!"<{t}>")
    s!"<{tag}> is not permitted as a direct child of <{parent}>; permitted: {permitted}"
  | .leaf tag source => s!"invalid <{tag}>: {source.message}"
  | .gateArity tag found => s!"<{tag}> must contain exactly one condition, found {found}"
  | .tooDeep limit => s!"conditions nested deeper than {limit} levels"

instance : MonadLift (TokenReader DocumentError) (TokenReader ReadError) :=
  ⟨Consumer.mapError .document⟩

namespace TokenReader

/-- Takes the next token; at the end of the document `expected` is missing. -/
def nextOr (expected : String) : TokenReader ReadError Token where
  run s := match next.run s with
    | (.error e, rest) => (.error (.document e), rest)
    | (.ok none, rest) => (.error (.document (.unexpectedEnd expected)), rest)
    | (.ok (some token), rest) => (.ok token, rest)
  size_le s := by
    have h := next.size_le s
    split <;> rename_i hs <;> rwa [hs] at h

theorem nextOr_advances (expected : String) : (nextOr expected).Advances := by
  intro s token rest h
  obtain ⟨tokens, breakdown⟩ := s
  simp only [nextOr, next] at h
  split at h
  · simp at h
  · simp at h
  · rename_i t rest' hs
    split at hs
    · simp at hs
    · cases tokens with
      | nil => simp at hs
      | cons head tail =>
        simp only [Prod.mk.injEq, Except.ok.injEq] at h hs
        rw [← h.2, ← hs.2]
        simp [TokenSource.advance]

end TokenReader

/-- What a condition is read under: a registry, and how many levels a condition may have. -/
structure Reader (P : Type) where
  registry : Registry P
  maxDepth : Nat := 64

namespace Reader

variable {P : Type}

/-- The statement of a tag, which has to be registered. -/
def statement (r : Reader P) (tag : String) : TokenReader ReadError (Statement P) :=
  match r.registry.find? tag with
  | some statement => pure statement
  | none => Consumer.fail (.unknownStatement tag)

/-- The children of the element `parent`, up to and including its end. Blank text may stand between
    them; `child` reads one whose opening tag was read. -/
def children (r : Reader P) (parent : String) (permitted : List String)
    (child : LeafElement → TokenReader ReadError (Condition P)) :
    TokenReader ReadError (List (Condition P)) := do
  let items ← Consumer.items (TokenReader.nextOr s!"</{parent}>") (TokenReader.nextOr_advances _)
    fun
    | .closing => return none
    | .opening name attributes => do
      let _ ← r.statement name
      if permitted.contains name then return some [← child ⟨name, attributes⟩]
      else Consumer.fail (.misplaced name parent permitted)
    | .text content =>
      if Text.isBlank content then return some []
      else Consumer.fail
        (.document (.unexpectedToken (.text content) s!"child element or </{parent}>"))
  return items.flatten

/-- An element whose opening tag was read, up to and including its end, with at most `levels` levels
    of conditions. -/
def element (r : Reader P) : Nat → LeafElement → TokenReader ReadError (Condition P)
  | 0, _ => Consumer.fail (.tooDeep r.maxDepth)
  | levels + 1, e => do
    match ← r.statement e.tag with
    | .composite junction =>
      let children ← r.children e.tag (r.registry.allowedChildren e.tag) (r.element levels)
      return .composite junction children
    | .leaf read =>
      let predicate ← Consumer.mapError (.leaf e.tag) (read e)
      TokenReader.expectClose e.tag
      return .leaf predicate

/-- What is missing where a condition should begin. -/
def openingExpected : String := "opening tag of a condition"

/-- The next condition, with blank text before it; the tokens after it are left. -/
def read (r : Reader P) : TokenReader ReadError (Condition P) := do
  TokenReader.skipBlankText
  match ← TokenReader.next with
  | some (.opening name attributes) => r.element r.maxDepth ⟨name, attributes⟩
  | some found => Consumer.fail (.document (.unexpectedToken found openingExpected))
  | none => Consumer.fail (.document (.unexpectedEnd openingExpected))

/-- The conditions directly below the element `parent`, whose opening tag was read, up to and
    including its end. They are on the second level, the element being on the first. -/
def readWithin (r : Reader P) (parent : String) (permitted : List String) :
    TokenReader ReadError (List (Condition P)) :=
  r.children parent permitted (r.element (r.maxDepth - 1))

end Reader

end Verdict
