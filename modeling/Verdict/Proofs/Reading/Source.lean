import Verdict.Leaf.Element
import Verdict.Condition.Reading
import Verdict.Proofs.Consumer

/-!
# Reading from a list of tokens

A source that never breaks down is a list of tokens (`TokenSource.ofTokens`). On such a source every
step has a plain meaning:

* `run_next_cons`, `run_nextOr_cons`, `run_nextOr_iff`: the token ahead;
* `run_gather`: the longest run of tokens that a test accepts;
* `run_skipBlankText`, `run_expectClose_iff`: blank text, and the end of an element behind it;
* `exists_texts_append`, `run_text`: the texts at the start of a body, which a leaf joins
  (`joinedTexts`).
-/

namespace Verdict

/-- The content of a text. -/
def Token.text? : Token → Option String
  | .text content => some content
  | _ => none

/-- Blank texts are texts. -/
theorem Token.isBlankText_of_text?_eq_none {token : Token} (h : token.text? = none) :
    token.isBlankText = false := by
  cases token with
  | opening name attributes => rfl
  | text content => cases h
  | closing => rfl

/-- The text of a leaf: its pieces joined, and none where there is no piece. -/
def joinedTexts : List String → Option String
  | [] => none
  | texts => some (String.join texts)

namespace TokenSource

@[simp] theorem tokens_ofTokens (tokens : List Token) : (ofTokens tokens).tokens = tokens := rfl

@[simp] theorem error?_ofTokens (tokens : List Token) : (ofTokens tokens).error? = none := rfl

@[simp] theorem advance_ofTokens_cons (token : Token) (rest : List Token) :
    (ofTokens (token :: rest)).advance = ofTokens rest := rfl

end TokenSource

namespace TokenReader

/-! ## 1. The token ahead -/

@[simp] theorem run_next_nil : next.run (.ofTokens []) = (.ok none, .ofTokens []) := rfl

@[simp] theorem run_next_cons (token : Token) (rest : List Token) :
    next.run (.ofTokens (token :: rest)) = (.ok (some token), .ofTokens rest) := rfl

@[simp] theorem run_peek (tokens : List Token) :
    peek.run (.ofTokens tokens) = (.ok tokens.head?, .ofTokens tokens) := rfl

theorem run_next_some_iff {tokens : List Token} {token : Token} {s : TokenSource} :
    next.run (.ofTokens tokens) = (.ok (some token), s) ↔
      ∃ rest, tokens = token :: rest ∧ s = .ofTokens rest := by
  cases tokens with
  | nil => simp
  | cons head rest =>
    rw [run_next_cons]
    simp only [Prod.mk.injEq, Except.ok.injEq, Option.some.injEq, List.cons.injEq]
    constructor
    · intro h
      obtain ⟨rfl, rfl⟩ := h
      exact ⟨rest, ⟨rfl, rfl⟩, rfl⟩
    · intro h
      obtain ⟨_, ⟨rfl, rfl⟩, rfl⟩ := h
      exact ⟨rfl, rfl⟩

theorem run_nextOr_cons (expected : String) (token : Token) (rest : List Token) :
    (nextOr expected).run (.ofTokens (token :: rest)) = (.ok token, .ofTokens rest) := rfl

theorem run_nextOr_iff {expected : String} {tokens : List Token} {token : Token} {s : TokenSource} :
    (nextOr expected).run (.ofTokens tokens) = (.ok token, s) ↔
      ∃ rest, tokens = token :: rest ∧ s = .ofTokens rest := by
  rw [← run_next_some_iff]
  unfold nextOr
  cases tokens with
  | nil => simp
  | cons head rest => simp

/-! ## 2. Runs of tokens -/

/-- Gathering takes the longest run of tokens that the test accepts. -/
theorem run_gather {α : Type} (f : Token → Option α) (tokens : List Token) :
    (gather f).run (.ofTokens tokens) =
      (.ok ((tokens.takeWhile fun t => (f t).isSome).filterMap f),
        .ofTokens (tokens.dropWhile fun t => (f t).isSome)) := by
  show TokenSource.gather f (.ofTokens tokens) = _
  induction tokens with
  | nil =>
    rw [TokenSource.gather]
    rfl
  | cons token rest ih =>
    rw [TokenSource.gather]
    cases h : f token with
    | none =>
      rw [List.takeWhile_cons_of_neg (by simp [h]), List.dropWhile_cons_of_neg (by simp [h])]
      simp [h]
    | some a =>
      rw [List.takeWhile_cons_of_pos (by simp [h]), List.dropWhile_cons_of_pos (by simp [h])]
      simp [ih, h]

theorem run_skipBlankText (tokens : List Token) :
    skipBlankText.run (.ofTokens tokens) =
      (.ok (), .ofTokens (tokens.dropWhile Token.isBlankText)) := by
  have htest : (fun t : Token => (if t.isBlankText then some () else none).isSome) =
      Token.isBlankText := by
    funext t
    cases t.isBlankText <;> rfl
  unfold skipBlankText
  rw [Consumer.run_bind_of_ok (run_gather _ _), Consumer.run_pure, htest]

/-- The first token behind blank text. -/
theorem dropWhile_isBlankText_iff {tokens rest : List Token} {token : Token} :
    tokens.dropWhile Token.isBlankText = token :: rest ↔
      token.isBlankText = false ∧ ∃ blanks : List Token, (∀ b ∈ blanks, b.isBlankText = true) ∧
        tokens = blanks ++ token :: rest := by
  constructor
  · intro h
    have hhead := List.head?_dropWhile_not Token.isBlankText tokens
    rw [h] at hhead
    refine ⟨by simpa using hhead, tokens.takeWhile Token.isBlankText, ?_, ?_⟩
    · exact fun b hb => List.all_eq_true.mp List.all_takeWhile b hb
    · rw [← h, List.takeWhile_append_dropWhile]
  · intro h
    obtain ⟨htoken, blanks, hblanks, rfl⟩ := h
    rw [List.dropWhile_append_of_pos hblanks, List.dropWhile_cons_of_neg (by simp [htoken])]

theorem run_expectClose_nil (tag : String) : (expectClose tag).run (.ofTokens []) =
    (.error (.unexpectedEnd s!"</{tag}>"), .ofTokens []) := by
  unfold expectClose
  rw [Consumer.run_bind_of_ok (run_skipBlankText [])]
  rfl

theorem run_expectClose_opening (tag name : String) (attributes : List Attribute)
    (rest : List Token) : (expectClose tag).run (.ofTokens (.opening name attributes :: rest)) =
      (.error (.unexpectedToken (.opening name attributes) s!"</{tag}>"), .ofTokens rest) := by
  unfold expectClose
  rw [Consumer.run_bind_of_ok (run_skipBlankText _)]
  rfl

/-- The end of an element is taken, with blank text before it. -/
theorem run_expectClose_iff {tag : String} {tokens : List Token} {s : TokenSource} :
    (expectClose tag).run (.ofTokens tokens) = (.ok (), s) ↔
      ∃ rest, tokens.dropWhile Token.isBlankText = .closing :: rest ∧ s = .ofTokens rest := by
  unfold expectClose
  rw [Consumer.run_bind_of_ok (run_skipBlankText tokens)]
  cases tokens.dropWhile Token.isBlankText with
  | nil => simp [Consumer.run_bind_of_ok run_next_nil]
  | cons token rest =>
    rw [Consumer.run_bind_of_ok (run_next_cons token rest)]
    cases token with
    | opening name attributes => simp
    | text content => simp
    | closing => simp [eq_comm]

/-! ## 3. The texts of a leaf -/

/-- Every body begins with its longest run of texts. -/
theorem exists_texts_append (tokens : List Token) :
    ∃ (texts : List String) (rest : List Token), tokens = texts.map .text ++ rest ∧
      ∀ token, rest.head? = some token → token.text? = none := by
  induction tokens with
  | nil => exact ⟨[], [], rfl, by simp⟩
  | cons token tokens ih =>
    cases h : token.text? with
    | none => exact ⟨[], token :: tokens, rfl, fun t ht => Option.some.inj ht ▸ h⟩
    | some content =>
      obtain ⟨texts, rest, rfl, hrest⟩ := ih
      have htoken : token = .text content := by
        cases token <;> simp_all [Token.text?]
      exact ⟨content :: texts, rest, by rw [htoken]; rfl, hrest⟩

theorem run_readText {texts : List String} {rest : List Token}
    (hrest : ∀ token, rest.head? = some token → token.text? = none) :
    readText.run (.ofTokens (texts.map .text ++ rest)) =
      (.ok (String.join texts), .ofTokens rest) := by
  have htexts : ∀ t ∈ texts.map Token.text, (Token.text? t).isSome = true := by
    intro t ht
    obtain ⟨content, -, rfl⟩ := List.mem_map.mp ht
    rfl
  have hrefused : ∀ token, rest.head? = some token → (Token.text? token).isSome = false := by
    intro token htoken
    rw [hrest token htoken]
    rfl
  obtain ⟨htake, hdrop⟩ := Consumer.takeWhile_dropWhile_of_refused hrefused
  have hgather := run_gather Token.text? (texts.map Token.text ++ rest)
  rw [List.takeWhile_append_of_pos htexts, List.dropWhile_append_of_pos htexts, htake, hdrop]
    at hgather
  have hpieces : (texts.map Token.text).filterMap Token.text? = texts := by
    rw [List.filterMap_map]
    exact List.filterMap_some
  rw [List.append_nil, hpieces] at hgather
  exact Consumer.run_bind_of_ok hgather _

/-- The text of a leaf is all of the texts at the start of its body. -/
theorem run_text {texts : List String} {rest : List Token}
    (hrest : ∀ token, rest.head? = some token → token.text? = none) :
    LeafElement.text.run (.ofTokens (texts.map .text ++ rest)) =
      (.ok (joinedTexts texts), .ofTokens rest) := by
  unfold LeafElement.text
  rw [Consumer.run_bind_of_ok (run_peek _)]
  cases texts with
  | nil =>
    cases rest with
    | nil => rfl
    | cons token rest =>
      cases token with
      | opening name attributes => rfl
      | text content => cases hrest _ rfl
      | closing => rfl
  | cons content texts => exact Consumer.run_bind_of_ok (run_readText hrest) _

end TokenReader

end Verdict
