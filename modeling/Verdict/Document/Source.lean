import Verdict.Consumer
import Verdict.Document.Error

/-!
# Reading tokens front to back

* `TokenSource`: the tokens still unread, and, for a source that can break down, how many more
  tokens it will hand out and the error it then answers;
* `TokenReader`: a reading step over such a source;
* `next`, `peek`: the two primitive steps;
* `gather`: taking tokens for as long as a test accepts them -- `skipBlankText` and `readText` are
  its two uses;
* `expectClose`: the end of an element.
-/

namespace Verdict

/-- The breakdown of a source: after `allowance` more successful calls of `next`, every `next` and
    `peek` answers `error`. A call at the end of the document succeeds too. -/
structure Breakdown where
  allowance : Nat
  error : DocumentError

/-- The unread tokens of a document, front first. -/
structure TokenSource where
  tokens : List Token
  breakdown : Option Breakdown := none

instance : Source TokenSource := ⟨fun s => s.tokens.length⟩

/-- A reading step over the tokens of a document. -/
abbrev TokenReader (ε α : Type) := Consumer TokenSource ε α

/-- A source that never breaks down. -/
def TokenSource.ofTokens (tokens : List Token) : TokenSource := { tokens }

namespace TokenSource

@[simp] theorem size_eq (s : TokenSource) : Source.size s = s.tokens.length := rfl

/-- The error that the source answers to every further call, if it has broken down. -/
def error? (s : TokenSource) : Option DocumentError :=
  match s.breakdown with
  | some ⟨0, e⟩ => some e
  | _ => none

/-- The source after one more successful call of `next`. -/
def advance (s : TokenSource) : TokenSource where
  tokens := s.tokens.tail
  breakdown := s.breakdown.map fun b => { b with allowance := b.allowance - 1 }

/-- Adds a token at the back. -/
def push (s : TokenSource) (token : Token) : TokenSource :=
  { s with tokens := s.tokens ++ [token] }

theorem length_advance_le (s : TokenSource) : s.advance.tokens.length ≤ s.tokens.length := by
  simp [advance]

/-- Takes tokens from the front for as long as `f` accepts the next one; `f` is asked before the
    token is taken. -/
def gather {α : Type} (f : Token → Option α) (s : TokenSource) :
    Except DocumentError (List α) × TokenSource :=
  match s.error? with
  | some e => (.error e, s)
  | none =>
    match _ahead : s.tokens with
    | [] => (.ok [], s)
    | token :: _ =>
      match f token with
      | none => (.ok [], s)
      | some a =>
        match gather f s.advance with
        | (.ok as, rest) => (.ok (a :: as), rest)
        | (.error e, rest) => (.error e, rest)
termination_by s.tokens.length
decreasing_by simp [advance, _ahead]

theorem length_gather_le {α : Type} (f : Token → Option α) (s : TokenSource) :
    (gather f s).2.tokens.length ≤ s.tokens.length := by
  fun_induction gather f s with
  | case1 s e h => simp
  | case2 s h hs => simp
  | case3 s h token rest hs hf => simp
  | case4 s h token rest hs a hf as r hr ih =>
    rw [hr] at ih
    exact Nat.le_trans ih (length_advance_le s)
  | case5 s h token rest hs a hf e r hr ih =>
    rw [hr] at ih
    exact Nat.le_trans ih (length_advance_le s)

end TokenSource

namespace TokenReader

/-- Takes the next token; none at the end of the document. -/
def next : TokenReader DocumentError (Option Token) where
  run s := match s.error? with
    | some e => (.error e, s)
    | none => (.ok s.tokens.head?, s.advance)
  size_le s := by
    split
    · exact Nat.le_refl _
    · exact s.length_advance_le

/-- The next token, left where it is. -/
def peek : TokenReader DocumentError (Option Token) where
  run s := match s.error? with
    | some e => (.error e, s)
    | none => (.ok s.tokens.head?, s)
  size_le s := by split <;> exact Nat.le_refl _

/-- Takes tokens from the front for as long as `f` accepts the next one. -/
def gather {α : Type} (f : Token → Option α) : TokenReader DocumentError (List α) where
  run := TokenSource.gather f
  size_le := TokenSource.length_gather_le f

/-- Skips texts of whitespace only. -/
def skipBlankText : TokenReader DocumentError Unit := do
  let _ ← gather fun token => if token.isBlankText then some () else none

/-- Takes the texts ahead and joins them; the empty text when none is ahead. -/
def readText : TokenReader DocumentError String := do
  let pieces ← gather fun
    | .text content => some content
    | _ => none
  return String.join pieces

/-- Takes the end of the element `tag`; blank text before it is skipped. -/
def expectClose (tag : String) : TokenReader DocumentError Unit := do
  skipBlankText
  match ← next with
  | some .closing => return
  | some found => Consumer.fail (.unexpectedToken found s!"</{tag}>")
  | none => Consumer.fail (.unexpectedEnd s!"</{tag}>")

end TokenReader

end Verdict
