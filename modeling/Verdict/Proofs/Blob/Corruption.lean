import Verdict.Proofs.Blob.RoundTrip

/-!
# A byte that was altered is found

* `DiffersAt`: bytes that differ in exactly one place;
* `DiffersAt.slice_eq`, `DiffersAt.slice_ne`: the fields that do not hold this place, and those that
  do;
* `altered_magic` and the lemmas behind it: what decoding a written blob answers, by the field that
  holds the altered byte;
* **`decode_altered`**: all of them together.
-/

namespace Verdict.Blob

/-! ## 1. One altered byte -/

/-- `b` is `a` with another byte at `i`. -/
structure DiffersAt (i : Nat) (a b : Bytes) : Prop where
  length_eq : b.length = a.length
  lt_length : i < a.length
  ne : b[i]? ≠ a[i]?
  eq_elsewhere : ∀ j, j ≠ i → b[j]? = a[j]?

/-- Another byte may be put anywhere. -/
theorem differsAt_set {i : Nat} {a : Bytes} {old new : UInt8} (h : a[i]? = some old)
    (hne : new ≠ old) : DiffersAt i a (a.set i new) := by
  have hlength : i < a.length := (List.getElem?_eq_some_iff.mp h).1
  refine ⟨List.length_set, hlength, ?_, fun j hj => List.getElem?_set_ne hj.symm⟩
  rw [List.getElem?_set_self hlength, h]
  exact fun heq => hne (Option.some.inj heq)

section Fields

variable {i : Nat} {a b : Bytes}

theorem DiffersAt.slice_eq (h : DiffersAt i a b) (start length : Nat)
    (hi : i < start ∨ start + length ≤ i) : slice b start length = slice a start length :=
  slice_congr fun j hstart hend => h.eq_elsewhere j (by omega)

theorem DiffersAt.slice_ne (h : DiffersAt i a b) (start length : Nat) (hstart : start ≤ i)
    (hend : i < start + length) : slice b start length ≠ slice a start length := by
  intro heq
  obtain ⟨k, rfl⟩ := Nat.exists_eq_add_of_le hstart
  have hk : k < length := Nat.lt_of_add_lt_add_left hend
  have hbyte : (slice b start length)[k]? = (slice a start length)[k]? := by rw [heq]
  rw [slice, slice, List.getElem?_take_of_lt hk, List.getElem?_take_of_lt hk, List.getElem?_drop,
    List.getElem?_drop] at hbyte
  exact h.ne hbyte

end Fields

/-! ## 2. Altered blobs -/

section Altered

variable {room : Nat} {payload blob : Bytes} {i : Nat}
variable (h : DiffersAt i (header payload ++ payload) blob)

include h

theorem length_altered : blob.length = headerLength + payload.length :=
  h.length_eq.trans length_written

theorem headerLength_le_altered : headerLength ≤ blob.length := by
  rw [length_altered h]
  exact Nat.le_add_right _ _

/-- A field of the header that was altered states another number. -/
theorem fromLittleEndian_altered (start length : Nat) (hstart : start ≤ i)
    (hend : i < start + length) (hheader : start + length ≤ headerLength) :
    fromLittleEndian (slice blob start length) ≠
      fromLittleEndian (slice (header payload ++ payload) start length) := by
  intro heq
  have hblob := headerLength_le_altered h
  have hlength : (header payload ++ payload).length = blob.length := h.length_eq.symm
  refine h.slice_ne start length hstart hend (fromLittleEndian_inj ?_ heq)
  rw [length_slice (by omega), length_slice (by omega)]

theorem altered_magic (hi : i < 4) : decode room blob = .error .badMagic := by
  refine decode_badMagic (headerLength_le_altered h) fun hmagic => ?_
  refine h.slice_ne 0 4 (Nat.zero_le i) hi ?_
  rw [hmagic, slice_header_magic]

theorem altered_version (hstart : 4 ≤ i) (hend : i < 6) :
    decode room blob = .error (.incompatibleVersion (storedVersion blob) formatVersion) := by
  refine decode_incompatible (headerLength_le_altered h) ?_ fun hversion => ?_
  · rw [h.slice_eq 0 4 (.inr hstart), slice_header_magic]
  · refine fromLittleEndian_altered h 4 2 hstart hend (by decide) ?_
    exact hversion.trans (storedVersion_header payload payload).symm

/-- Behind the version, the checks of the header pass. -/
theorem hasHeader_altered (hi : 6 ≤ i) : HasHeader blob := by
  refine ⟨headerLength_le_altered h, ?_, ?_⟩
  · rw [h.slice_eq 0 4 (.inr (Nat.le_trans (by decide) hi)), slice_header_magic]
  · rw [storedVersion, h.slice_eq 4 2 (.inr hi)]
    exact storedVersion_header payload payload

/-- A larger length asks for more than there is. -/
theorem altered_length (hi : 6 ≤ i) (hlarger : payload.length < storedLength blob) :
    decode room blob = .error (.lengthMismatch (storedLength blob) payload.length) := by
  have hlength := length_altered h
  rw [decode_incomplete (hasHeader_altered h hi) (by omega), hlength, Nat.add_sub_cancel_left]

/-- Bytes with another hash than the header holds are refused. -/
theorem altered_bytes (hi : i < 16 ∨ headerLength ≤ i) (hheader : 6 ≤ i)
    (hlength : storedLength blob ≤ payload.length)
    (hhash : checksum (storedBytes blob) ≠ checksum payload) :
    decode room blob = .error .checksumMismatch := by
  have hfield : slice blob 16 16 = checksum payload := by
    rw [h.slice_eq 16 16 hi, slice_header_checksum]
  refine decode_mismatch (hasHeader_altered h hheader) ?_ fun heq => hhash (heq.trans hfield)
  rw [length_altered h]
  exact Nat.add_le_add_left hlength _

variable (hpayload : payload.length < 0x100000000)

include hpayload

/-- Outside its own field, the length is kept. -/
theorem storedLength_altered (hi : i < 12 ∨ 16 ≤ i) : storedLength blob = payload.length := by
  rw [storedLength, h.slice_eq 12 4 hi]
  exact storedLength_header payload hpayload

/-- In the bytes that only inform, nothing is read. -/
theorem altered_unread (hstart : 6 ≤ i) (hend : i < 12) :
    decode room blob = decode room (header payload ++ payload) := by
  have hlength := storedLength_altered h hpayload (.inl hend)
  have hkept : ∀ start length, 12 ≤ start →
      slice blob start length = slice (header payload ++ payload) start length :=
    fun start length hle => h.slice_eq start length (.inl (Nat.lt_of_lt_of_le hend hle))
  rw [decode_of_header (hasHeader_altered h hstart),
    decode_of_header (hasHeader_header payload payload), storedBytes, storedBytes, hlength,
    storedLength_header payload hpayload, h.length_eq, hkept _ _ (by decide),
    hkept _ _ (by decide)]

theorem storedLength_altered_ne (hstart : 12 ≤ i) (hend : i < 16) :
    storedLength blob ≠ payload.length := by
  rw [← storedLength_header payload hpayload]
  exact fromLittleEndian_altered h 12 4 hstart hend (by decide)

/-- A header that holds another hash is refused. -/
theorem altered_checksum (hstart : 16 ≤ i) (hend : i < headerLength) :
    decode room blob = .error .checksumMismatch := by
  have hlength := storedLength_altered h hpayload (.inr hstart)
  have hbytes : storedBytes blob = payload := by
    rw [storedBytes, hlength, h.slice_eq _ _ (.inl hend), slice_payload]
  have hcomplete : headerLength + storedLength blob = blob.length := by
    rw [hlength, length_altered h]
  refine decode_mismatch (hasHeader_altered h (Nat.le_trans (by decide) hstart))
    (Nat.le_of_eq hcomplete) fun heq => ?_
  refine h.slice_ne 16 16 hstart hend ?_
  rw [← heq, hbytes, slice_header_checksum]

/-- What is hashed is no longer the payload, if its length was lowered or one of its bytes was
    altered. -/
theorem storedBytes_altered_ne (hi : headerLength ≤ i ∨ storedLength blob < payload.length) :
    storedBytes blob ≠ payload := by
  intro heq
  rcases hi with hi | hshorter
  · have hlength := storedLength_altered h hpayload (.inr (Nat.le_trans (by decide) hi))
    have hend : i < headerLength + payload.length := Nat.lt_of_lt_of_eq h.lt_length length_written
    refine h.slice_ne headerLength payload.length hi hend ?_
    rw [slice_payload, ← hlength]
    exact heq
  · have hlength : (storedBytes blob).length = storedLength blob := by
      refine length_slice ?_
      rw [length_altered h]
      exact Nat.add_le_add_left (Nat.le_of_lt hshorter) _
    rw [heq] at hlength
    exact absurd hlength.symm (Nat.ne_of_lt hshorter)

end Altered

/-! ## 3. Detection -/

/-- **A byte that was altered is found.** In a blob of one element with a payload below 2^32 bytes,
    every altered byte gives an error that says what is wrong, but for those of the version of the
    engine and the reserved ones, which do no harm. Only where another run of bytes is hashed than
    the payload is the hash asked to tell the two apart. -/
theorem decode_altered (room : Nat) {tokens : List Token} {levels : Nat}
    (helement : IsElement levels tokens)
    (hpayload : (Payload.ofTokens tokens).encode.length < 0x100000000) {i : Nat} {blob : Bytes}
    (h : DiffersAt i (encode tokens) blob)
    (hhash : storedBytes blob ≠ (Payload.ofTokens tokens).encode →
      checksum (storedBytes blob) ≠ checksum (Payload.ofTokens tokens).encode) :
    decode room blob =
      if i < 4 then .error .badMagic
      else if i < 6 then .error (.incompatibleVersion (storedVersion blob) formatVersion)
      else if i < 12 then .ok tokens
      else if i < 16 ∧ (Payload.ofTokens tokens).encode.length < storedLength blob then
        .error (.lengthMismatch (storedLength blob) (Payload.ofTokens tokens).encode.length)
      else .error .checksumMismatch := by
  obtain ⟨depth, hdepth, -⟩ := isElement_iff_measure.mp helement
  have hdecode := decode_encode_eq room hpayload
  rw [hdepth] at hdecode
  rw [encode_eq] at h hdecode
  generalize (Payload.ofTokens tokens).encode = payload at h hdecode hpayload hhash
  by_cases hmagic : i < 4
  · rw [if_pos hmagic]
    exact altered_magic h hmagic
  rw [if_neg hmagic]
  by_cases hversion : i < 6
  · rw [if_pos hversion]
    exact altered_version h (Nat.not_lt.mp hmagic) hversion
  rw [if_neg hversion]
  have hheader : 6 ≤ i := Nat.not_lt.mp hversion
  by_cases hunread : i < 12
  · rw [if_pos hunread, altered_unread h hpayload hheader hunread]
    exact hdecode
  rw [if_neg hunread]
  by_cases hlength : i < 16
  · have hne := storedLength_altered_ne h hpayload (Nat.not_lt.mp hunread) hlength
    rcases Nat.lt_or_gt_of_ne hne with hsmaller | hlarger
    · rw [if_neg fun hlarger => Nat.lt_asymm hsmaller hlarger.2]
      exact altered_bytes h (.inl hlength) hheader (Nat.le_of_lt hsmaller)
        (hhash (storedBytes_altered_ne h hpayload (.inr hsmaller)))
    · rw [if_pos ⟨hlength, hlarger⟩]
      exact altered_length h hheader hlarger
  · have hstart : 16 ≤ i := Nat.not_lt.mp hlength
    rw [if_neg fun hboth => hlength hboth.1]
    by_cases hchecksum : i < headerLength
    · exact altered_checksum h hpayload hstart hchecksum
    · have hbody : headerLength ≤ i := Nat.not_lt.mp hchecksum
      exact altered_bytes h (.inr hbody) hheader
        (Nat.le_of_eq (storedLength_altered h hpayload (.inr hstart)))
        (hhash (storedBytes_altered_ne h hpayload (.inl hbody)))

/-- A length that was lowered by one: the last byte of the payload is not hashed. -/
theorem decode_altered_lower_length :
    let tokens : List Token := [.opening "a" [], .closing]
    let blob : Bytes := (encode tokens).set 12 7
    IsElement 1 tokens ∧ (Payload.ofTokens tokens).encode = [2, 1, 2, 0, 1, 0x61, 0, 2] ∧
      DiffersAt 12 (encode tokens) blob ∧ storedBytes blob = [2, 1, 2, 0, 1, 0x61, 0] ∧
      checksum (storedBytes blob) ≠ checksum (Payload.ofTokens tokens).encode ∧
      decode 0 blob = .error .checksumMismatch := by
  intro tokens blob
  have helement : IsElement 1 tokens := by decide +kernel
  have hpayload : (Payload.ofTokens tokens).encode = [2, 1, 2, 0, 1, 0x61, 0, 2] := by
    decide +kernel
  have hdiffers : DiffersAt 12 (encode tokens) blob :=
    differsAt_set (by decide +kernel : (encode tokens)[12]? = some 8) (by decide)
  have hbytes : storedBytes blob = [2, 1, 2, 0, 1, 0x61, 0] := by decide +kernel
  have hhash : checksum (storedBytes blob) ≠ checksum (Payload.ofTokens tokens).encode := by
    rw [hbytes, hpayload]
    decide +kernel
  have hfits : (Payload.ofTokens tokens).encode.length < 0x100000000 := by
    rw [hpayload]
    decide
  have hlength : ¬((Payload.ofTokens tokens).encode.length < storedLength blob) := by
    rw [hpayload]
    decide +kernel
  have hdecode := decode_altered 0 helement hfits hdiffers fun _ => hhash
  rw [if_neg (by decide), if_neg (by decide), if_neg (by decide),
    if_neg fun hboth => hlength hboth.2] at hdecode
  exact ⟨helement, hpayload, hdiffers, hbytes, hhash, hdecode⟩

end Verdict.Blob
