import Mathlib.Data.List.TakeDrop
import Verdict.Proofs.Blob.Surplus

/-!
# The length that a blob states

The header states the length of the payload in four bytes, and writing it does not ask whether it
fits.

* `storedBytes_written`: as much of the payload is hashed and decoded as is stated;
* `decode_encode_long`: a blob that states too little is not read back;
* **`encode_statesLength`**: a blob states the length of its payload exactly if this is below 2^32,
  and no other blob is read back;
* `encode_statesLength_fails`: the least length that is stated wrong, of one element with a long
  text.
-/

namespace Verdict.Blob

/-! ## 1. What is stated -/

section Written

variable (payload : Bytes)

theorem drop_written : (header payload ++ payload).drop headerLength = payload :=
  List.drop_left' (length_header payload)

/-- As many bytes of the payload as are stated. -/
theorem storedBytes_written :
    storedBytes (header payload ++ payload) =
      payload.take (payload.length % 0x100000000) := by
  rw [storedBytes, storedLength_header_mod, slice, drop_written]

end Written

/-- **A blob with a payload of 2^32 bytes or more is not read back**: what it states leaves part of
    the payload out. It is refused, or ends the program where there is no room for all of it. -/
theorem decode_encode_long (room : Nat) {tokens : List Token}
    (hlong : 0x100000000 ≤ (Payload.ofTokens tokens).encode.length)
    (hsize : (Payload.ofTokens tokens).encode.length < capacity 8) :
    decode room (encode tokens) = .error .checksumMismatch ∨
      decode room (encode tokens) = .error .undecodable ∨
      decode room (encode tokens) = .crash ∧
        ¬IsAllotted room (Payload.ofTokens tokens).encode.length := by
  rw [encode_eq]
  have hshort : (Payload.ofTokens tokens).encode.length % 0x100000000 <
      (Payload.ofTokens tokens).encode.length := by omega
  generalize hpayload : (Payload.ofTokens tokens).encode = payload at hlong hsize hshort ⊢
  have hheader := hasHeader_header payload payload
  have hlength : headerLength + storedLength (header payload ++ payload) ≤
      (header payload ++ payload).length := by
    rw [storedLength_header_mod, length_written]
    omega
  by_cases hchecksum : checksum (storedBytes (header payload ++ payload)) =
      slice (header payload ++ payload) 16 16
  · have hwhole : Payload.decode room payload = .ok (Payload.ofTokens tokens, []) := by
      subst hpayload
      have hread := Payload.readsAs_encode_ofTokens room hsize []
      rwa [List.append_nil] at hread
    rw [decode_of_checksum hheader hlength hchecksum, storedBytes_written]
    cases hdecode : Payload.decode room (payload.take (payload.length % 0x100000000)) with
    | ok found => exact absurd hdecode (readsFront_payload.take_ne_ok hwhole hshort found)
    | error e => exact .inr (.inl rfl)
    | crash =>
      have hoverdraws := Payload.decode_eq_crash_iff.mp hdecode
      exact .inr (.inr ⟨rfl, not_isAllotted_of_take hwhole hoverdraws⟩)
  · exact .inl (decode_mismatch hheader hlength hchecksum)

/-- **A blob states the length of its payload modulo 2^32**, which is the length exactly if it is
    below 2^32. What is hashed and decoded is as much of the payload as is stated: all of it up to
    that bound, less beyond it, and then the blob is not read back. -/
theorem encode_statesLength (tokens : List Token) :
    let payload := (Payload.ofTokens tokens).encode
    let blob := encode tokens
    blob.drop headerLength = payload ∧
    storedLength blob = payload.length % 0x100000000 ∧
    storedBytes blob = payload.take (storedLength blob) ∧
    (storedLength blob = payload.length ↔ payload.length < 0x100000000) ∧
    (storedBytes blob = payload ↔ payload.length < 0x100000000) ∧
    (0x100000000 ≤ payload.length → payload.length < capacity 8 → ∀ room,
      decode room blob = .error .checksumMismatch ∨ decode room blob = .error .undecodable ∨
        decode room blob = .crash ∧ ¬IsAllotted room payload.length) := by
  intro payload blob
  have hstored : storedLength blob = payload.length % 0x100000000 :=
    storedLength_header_mod payload payload
  have hbytes : storedBytes blob = payload.take (payload.length % 0x100000000) :=
    storedBytes_written payload
  refine ⟨drop_written payload, hstored, by rw [hbytes, hstored], ?_, ?_,
    fun hlong hsize room => decode_encode_long room hlong hsize⟩
  · rw [hstored]
    omega
  · rw [hbytes, List.take_eq_self_iff]
    omega

/-! ## 2. Where it goes wrong -/

/-- An element that holds a text of so many letters. -/
def letters (count : Nat) : List Token :=
  [.opening "a" [], .text (String.ofList (List.replicate count 'a')), .closing]

theorem isElement_letters (count : Nat) : IsElement 1 (letters count) :=
  isElement_iff_measure.mpr ⟨1, rfl, Nat.le_refl 1⟩

theorem length_utf8_letters (count : Nat) :
    (utf8 (String.ofList (List.replicate count 'a'))).length = count := by
  simp [utf8, List.utf8Encode, List.flatMap_replicate, String.utf8EncodeChar]

/-- Beside its letters, the payload has fourteen bytes. -/
theorem length_encode_letters {count : Nat} (hlow : 0x10000 ≤ count)
    (hhigh : count < 0x100000000) :
    (Payload.ofTokens (letters count)).encode.length = count + 14 := by
  have hnumber : (Varint.encode count).length = 5 := by
    have hsmall : ¬count < Varint.twoByteMark := by
      unfold Varint.twoByteMark
      omega
    rw [Varint.encode, if_neg hsmall, if_neg (Nat.not_lt.mpr hlow), if_pos hhigh,
      List.length_cons, length_littleEndian]
  have htext : (encodeText (String.ofList (List.replicate count 'a'))).length = count + 5 := by
    rw [encodeText, List.length_append, length_utf8_letters, hnumber, Nat.add_comm]
  have hcontent : (encodeToken (.text (String.ofList (List.replicate count 'a')))).length =
      count + 6 := by
    rw [encodeToken, List.length_append, htext]
    exact Nat.add_comm 1 (count + 5)
  have hopening : (encodeToken (.opening "a" [])).length = 4 := by decide
  have hclosing : (encodeToken .closing).length = 1 := by decide
  have hdepth : (Payload.ofTokens (letters count)).depth = 1 := rfl
  have hnumbers : (Varint.encode 3).length = 1 ∧ (Varint.encode 1).length = 1 := by decide
  rw [Payload.encode, hdepth]
  show (Varint.encode 3 ++ Varint.encode 1 ++ (Varint.encode 3 ++
    (letters count).flatMap encodeToken)).length = _
  simp only [letters, List.flatMap_cons, List.flatMap_nil, List.length_append, List.length_nil,
    hnumbers, hopening, hcontent, hclosing]
  omega

/-- The text that takes the payload to 2^32 bytes: the length is stated as zero, and the blob of the
    element is not read back. With one letter less it is. -/
theorem encode_statesLength_fails :
    let least := letters (0x100000000 - 15)
    let tokens := letters (0x100000000 - 14)
    (storedLength (encode least) = 0xFFFFFFFF ∧ ∀ room, decode room (encode least) = .ok least) ∧
      IsElement 1 tokens ∧ ((encode tokens).drop headerLength).length = 0x100000000 ∧
      storedLength (encode tokens) = 0 ∧ ∀ room, decode room (encode tokens) ≠ .ok tokens := by
  intro least tokens
  have hleast : (Payload.ofTokens least).encode.length = 0xFFFFFFFF :=
    length_encode_letters (by decide) (by decide)
  have hlength : (Payload.ofTokens tokens).encode.length = 0x100000000 :=
    length_encode_letters (by decide) (by decide)
  refine ⟨⟨?_, ?_⟩, isElement_letters _, ?_, ?_, ?_⟩
  · rw [encode_eq, storedLength_header_mod, hleast]
  · intro room
    rw [decode_encode_eq room (by rw [hleast]; decide)]
    rfl
  · rw [encode_eq, drop_written, hlength]
  · rw [encode_eq, storedLength_header_mod, hlength]
  · intro room h
    rcases decode_encode_long room (Nat.le_of_eq hlength.symm) (by rw [hlength]; decide) with
      he | he | ⟨he, -⟩
    · rw [h] at he
      cases he
    · rw [h] at he
      cases he
    · rw [h] at he
      cases he

end Verdict.Blob
