import Verdict.Blob.Payload
import Verdict.Proofs.Blob.Encoding
import Verdict.Proofs.Document.Nesting

/-!
# A payload is read back

* `readsAs_encodeToken`: every token is read back;
* **`readsAs_encode_ofTokens`**: so is the payload of every document;
* `check_ofTokens`: what is wrong with the payload of a document is its nesting.
-/

namespace Verdict.Blob

/-! ## 1. Tokens -/

theorem length_encodeText_pos (s : String) : 0 < (encodeText s).length := by
  rw [encodeText, List.length_append]
  exact Nat.add_pos_left (Varint.length_encode_pos _) _

theorem length_encodeAttribute_pos (a : Attribute) : 0 < (encodeAttribute a).length := by
  rw [encodeAttribute, List.length_append]
  exact Nat.add_pos_left (length_encodeText_pos _) _

theorem length_encodeToken_pos (token : Token) : 0 < (encodeToken token).length := by
  cases token with
  | opening name attributes =>
    rw [encodeToken, List.length_append, List.length_append]
    exact Nat.add_pos_left (Nat.add_pos_left (Varint.length_encode_pos _) _) _
  | text content =>
    rw [encodeToken, List.length_append]
    exact Nat.add_pos_left (Varint.length_encode_pos _) _
  | closing => exact Varint.length_encode_pos _

theorem readsAs_encodeAttribute {a : Attribute} (room : Nat)
    (h : (encodeAttribute a).length < capacity 8) :
    ReadsAs (decodeAttribute room) (encodeAttribute a) a := by
  intro rest
  rw [encodeAttribute, List.length_append] at h
  rw [decodeAttribute, encodeAttribute, List.append_assoc, readsAs_encodeText room (by omega)]
  show (decodeText room (encodeText a.value ++ rest)).bind _ = _
  rw [readsAs_encodeText room (by omega)]
  rfl

/-- **Every token is read back.** -/
theorem readsAs_encodeToken {token : Token} (room : Nat)
    (h : (encodeToken token).length < capacity 8) :
    ReadsAs (decodeToken room) (encodeToken token) token := by
  intro rest
  rw [decodeToken]
  cases token with
  | opening name attributes =>
    rw [encodeToken, List.length_append, List.length_append] at h
    have hname : ReadsAs (decodeText room) (encodeText name) name :=
      readsAs_encodeText room (by omega)
    have hattributes : ReadsAs (decodeList (decodeAttribute room))
        (encodeList encodeAttribute attributes) attributes :=
      readsAs_encodeList (by omega) (fun a _ => length_encodeAttribute_pos a)
        fun _ _ => readsAs_encodeAttribute room
    rw [encodeToken, List.append_assoc, List.append_assoc,
      Varint.readsAs_encode_small (by decide) 4]
    show (decodeText room
      (encodeText name ++ (encodeList encodeAttribute attributes ++ rest))).bind _ = _
    rw [hname]
    show (decodeList (decodeAttribute room)
      (encodeList encodeAttribute attributes ++ rest)).bind _ = _
    rw [hattributes]
    rfl
  | text content =>
    rw [encodeToken, List.length_append] at h
    have hcontent : ReadsAs (decodeText room) (encodeText content) content :=
      readsAs_encodeText room (by omega)
    rw [encodeToken, List.append_assoc, Varint.readsAs_encode_small (by decide) 4]
    show (decodeText room (encodeText content ++ rest)).bind _ = _
    rw [hcontent]
    rfl
  | closing =>
    rw [encodeToken, Varint.readsAs_encode_small (by decide) 4]
    rfl

/-! ## 2. Payloads -/

namespace Payload

/-- A payload is read back. -/
theorem readsAs_encode {p : Payload} (room : Nat) (hlength : p.encode.length < capacity 8)
    (hcount : p.tokenCount < capacity 8) (hdepth : p.depth < capacity 8) :
    ReadsAs (decode room) p.encode p := by
  intro rest
  rw [encode, List.length_append, List.length_append] at hlength
  have htokens : ReadsAs (decodeList (decodeToken room)) (encodeList encodeToken p.tokens)
      p.tokens :=
    readsAs_encodeList (by omega) (fun token _ => length_encodeToken_pos token)
      fun _ _ => readsAs_encodeToken room
  rw [decode, encode, List.append_assoc, List.append_assoc, Varint.readsAs_encode hcount]
  show (Varint.decode 8 (Varint.encode p.depth ++ (encodeList encodeToken p.tokens ++ rest))).bind
    _ = _
  rw [Varint.readsAs_encode hdepth]
  show (decodeList (decodeToken room) (encodeList encodeToken p.tokens ++ rest)).bind _ = _
  rw [htokens]
  rfl

theorem depth_ofTokens_le (tokens : List Token) : (ofTokens tokens).depth ≤ tokens.length := by
  unfold ofTokens
  cases h : measure tokens with
  | ok depth => exact le_length_of_measure h
  | error fault => exact Nat.zero_le _

/-- A payload is no shorter in bytes than its document in tokens. -/
theorem length_le_length_encode (p : Payload) : p.tokens.length ≤ p.encode.length := by
  have hle := @length_le_length_encodeList Token encodeToken p.tokens
    fun token _ => length_encodeToken_pos token
  rw [encode, List.length_append]
  omega

/-- **The payload of a document is read back**, whatever the document. -/
theorem readsAs_encode_ofTokens {tokens : List Token} (room : Nat)
    (h : (ofTokens tokens).encode.length < capacity 8) :
    ReadsAs (decode room) (ofTokens tokens).encode (ofTokens tokens) := by
  have hcount : (ofTokens tokens).tokenCount ≤ (ofTokens tokens).encode.length :=
    length_le_length_encode (ofTokens tokens)
  have hdepth := Nat.le_trans (depth_ofTokens_le tokens) hcount
  exact readsAs_encode room h (Nat.lt_of_le_of_lt hcount h) (Nat.lt_of_le_of_lt hdepth h)

/-- The payload of a document states its number of tokens, and its depth if it is one element. -/
theorem check_ofTokens (tokens : List Token) :
    (ofTokens tokens).check = match measure tokens with
      | .error fault => .error (.nesting fault)
      | .ok _ => .ok () := by
  have hcount : ¬ (ofTokens tokens).tokenCount ≠ (ofTokens tokens).tokens.length := fun h => h rfl
  rw [check, if_neg hcount]
  show (match measure tokens with
    | .error fault => _
    | .ok depth => if (ofTokens tokens).depth ≠ depth then _ else _) = _
  cases h : measure tokens with
  | error fault => rfl
  | ok depth =>
    have hdepth : (ofTokens tokens).depth = depth := by rw [ofTokens, h]
    exact if_neg fun hne => hne hdepth

end Payload

end Verdict.Blob
