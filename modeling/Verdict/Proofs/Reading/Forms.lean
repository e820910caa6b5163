import Verdict.Condition.Text
import Verdict.Proofs.Blob.RoundTrip
import Verdict.Proofs.Condition.Element

/-!
# The three forms of a condition

A condition is written as tokens, as a text or as a blob.

* `parse_of_ofTokens`: the text that well-formed tokens are laid out as says these tokens;
* `toBytes_eq`: the blob of a tree is that of its tokens;
* **`forms_agree`**: the three forms are written and read alike, for every type of leaves, every
  tree and every registry.
-/

namespace Verdict

open Condition

variable {P : Type}

/-- The text that well-formed tokens are laid out as says these tokens. -/
theorem parse_of_ofTokens {tokens : List Token} {text : String} (hwell : WellFormed tokens)
    (h : Layout.ofTokens tokens = .ok text) : parse text = .ok tokens := by
  obtain ⟨printed, hprinted, hdocument⟩ := exists_documentText hwell
  obtain rfl := Except.ok.inj (h.symm.trans hprinted)
  exact parse_eq_ok_iff.mpr hdocument

namespace Condition

/-- A text is read as the tokens that it says. -/
theorem ofText_of_parse {registry : Registry P} {text : String} {tokens : List Token}
    (h : parse text = .ok tokens) :
    ofText registry text =
      ((Reader.read { registry }).run (.ofTokens tokens)).1.mapError .read := by
  rw [ofText, h]
  rfl

/-- A blob is read as the tokens that it holds. -/
theorem ofBytes_of_decode {room : Nat} {registry : Registry P} {blob : Blob.Bytes}
    {tokens : List Token} (h : Blob.decode room blob = .ok tokens) :
    ofBytes room registry blob =
      .ofExcept (((Reader.read { registry }).run (.ofTokens tokens)).1.mapError .read) := by
  rw [ofBytes, h]
  rfl

variable [LeafCodec P]

/-- The blob of a tree is that of its tokens. -/
theorem toBytes_eq (c : Condition P) : c.toBytes = c.tokens?.map Blob.encode := by
  rw [toBytes, toTokens_eq_tokens?]

/-- **The three forms of a condition agree.** Writing fails with the same error for all of them, or
    goes well for all of them, and the tokens are one element. If this has no more than `maxNesting`
    levels, names that the text format can write and a payload below 2^32 bytes, all three are read
    alike under every registry: as the same tree, or with the same error. -/
theorem forms_agree (c : Condition P) :
    (∃ e, c.toTokens = .error e ∧ c.toText = .error e ∧ c.toBytes = .error e) ∨
    ∃ tokens text blob depth, c.toTokens = .ok tokens ∧ c.toText = .ok text ∧
      c.toBytes = .ok blob ∧ measure tokens = .ok depth ∧
      (depth ≤ maxNesting → (∀ token ∈ tokens, token.isNamed = true) →
        (Blob.Payload.ofTokens tokens).encode.length < 0x100000000 →
        ∀ registry : Registry P,
          let outcome := ((Reader.read { registry }).run (.ofTokens tokens)).1
          ofText registry text = outcome.mapError .read ∧
            ∀ room, ofBytes room registry blob = .ofExcept (outcome.mapError .read)) := by
  rw [toTokens_eq_tokens?, toBytes_eq]
  cases h : c.tokens? with
  | error e => exact .inl ⟨e, rfl, toText_eq_error h, rfl⟩
  | ok tokens =>
    obtain ⟨text, htext, hlayout⟩ := exists_toText_of_tokens? h
    obtain ⟨depth, hdepth⟩ := exists_measure_of_tokens? h
    refine .inr ⟨tokens, text, Blob.encode tokens, depth, rfl, htext, rfl, hdepth, ?_⟩
    intro hle hnamed hpayload registry
    have hwell : WellFormed tokens := ⟨isElement_iff_measure.mpr ⟨depth, hdepth, hle⟩, hnamed⟩
    refine ⟨ofText_of_parse (parse_of_ofTokens hwell hlayout), fun room => ?_⟩
    have hdecode := Blob.decode_encode_eq room hpayload
    rw [hdepth] at hdecode
    exact ofBytes_of_decode hdecode

/-- Leaves of several lines, each of them an element in the body of the leaf. -/
@[reducible] def linesCodec : LeafCodec (List String) where
  tag _ := "note"
  read _ := LeafElement.children "line" do
    let line ← LeafElement.text
    TokenReader.expectClose "line"
    return line.getD ""
  write lines := do
    modify (·.addAttribute "kind" "lines")
    lines.forM fun line =>
      [.opening "line" [], .text line, .closing].forM fun token =>
        (LeafDraft.put token).mapError .document

/-- Elements in the body of a leaf, quotes, and an empty text. -/
theorem forms_agree_nested_body :
    let _ : LeafCodec (List String) := linesCodec
    let c : Condition (List String) := allOf [leaf ["a \"b\"", ""], anyOf []]
    let tokens : List Token := [.opening "allOf" [], .opening "note" [⟨"kind", "lines"⟩],
      .opening "line" [], .text "a \"b\"", .closing, .opening "line" [], .text "", .closing,
      .closing, .opening "anyOf" [], .closing, .closing]
    c.toTokens = .ok tokens ∧ measure tokens = .ok 3 ∧ 3 ≤ maxNesting ∧
      (∀ token ∈ tokens, token.isNamed = true) ∧
      (Blob.Payload.ofTokens tokens).encode.length < 0x100000000 ∧
      ∃ text blob, c.toText = .ok text ∧ c.toBytes = .ok blob ∧
        ∀ registry : Registry (List String),
          let outcome := ((Reader.read { registry }).run (.ofTokens tokens)).1
          ofText registry text = outcome.mapError .read ∧
            ∀ room, ofBytes room registry blob = .ofExcept (outcome.mapError .read) := by
  intro _ c tokens
  have hwritten : c.toTokens.toOption = some tokens := by decide +kernel
  have hmeasure : measure tokens = .ok 3 := rfl
  have hnesting : 3 ≤ maxNesting := by decide
  have hnamed : ∀ token ∈ tokens, token.isNamed = true := by decide
  have hpayload : (Blob.Payload.ofTokens tokens).encode.length < 0x100000000 := by decide +kernel
  rcases forms_agree c with ⟨e, herror, -⟩ | ⟨tokens', text, blob, depth, hok, hrest⟩
  · rw [herror] at hwritten
    cases hwritten
  · rw [hok] at hwritten
    obtain rfl := Option.some.inj hwritten
    obtain ⟨htext, hbytes, hdepth, hread⟩ := hrest
    obtain rfl := Except.ok.inj (hmeasure.symm.trans hdepth)
    exact ⟨hok, hmeasure, hnesting, hnamed, hpayload, text, blob, htext, hbytes,
      hread hnesting hnamed hpayload⟩

end Condition

end Verdict
