import Verdict.Proofs.Blob.Checks
import Verdict.Proofs.Blob.Payload

/-!
# A blob is decoded to its document

* `decode_written`: a written payload is left to its own checks;
* `decode_encode_eq`: a blob with a payload below 2^32 bytes is decoded to its document if this is
  one element, and otherwise fails with the fault of its nesting;
* `decode_take`: a blob that was cut off;
* **`decode_encode_roundTrip`**: the two together.
-/

namespace Verdict.Blob

/-! ## 1. Written blobs -/

/-- A written payload passes the checks before its own. -/
theorem decode_written {room : Nat} {payload rest : Bytes} (h : payload.length < 0x100000000)
    {p : Payload} (hp : Payload.decode room payload = .ok (p, rest)) :
    decode room (header payload ++ payload) = match p.check with
      | .error fault => .error (.invalid fault)
      | .ok () => .ok p.tokens := by
  have hstored : stored? (header payload ++ payload) = some p := by
    rw [stored?_eq_some_iff room, storedBytes_header h]
    exact ⟨rest, hp⟩
  exact decode_of_stored (Check.reached_header h) hstored

theorem encode_eq (tokens : List Token) : encode tokens =
    header (Payload.ofTokens tokens).encode ++ (Payload.ofTokens tokens).encode := rfl

/-- **A blob is decoded to its document**, if this is one element, and otherwise fails with the
    fault of its nesting. -/
theorem decode_encode_eq (room : Nat) {tokens : List Token}
    (h : (Payload.ofTokens tokens).encode.length < 0x100000000) :
    decode room (encode tokens) = match measure tokens with
      | .error fault => .error (.invalid (.nesting fault))
      | .ok _ => .ok tokens := by
  have hread := Payload.readsAs_encode_ofTokens room (Nat.lt_trans h (by decide)) []
  rw [List.append_nil] at hread
  rw [encode_eq, decode_written h hread, Payload.check_ofTokens]
  cases measure tokens <;> rfl

/-! ## 2. Blobs that were cut off -/

/-- A blob that ends before its payload does says how much of this is missing, or that its header
    is incomplete. -/
theorem decode_take (room : Nat) {blob : Bytes} (hheader : HasHeader blob) {cut : Nat}
    (hcut : cut < headerLength + storedLength blob) (hlength : cut ≤ blob.length) :
    decode room (blob.take cut) = .error (if cut < headerLength then .lengthMismatch headerLength cut
      else .lengthMismatch (storedLength blob) (cut - headerLength)) := by
  have htake : (blob.take cut).length = cut := by
    rw [List.length_take, Nat.min_eq_left hlength]
  by_cases hshort : cut < headerLength
  · rw [if_pos hshort, decode_short (htake.symm ▸ hshort), htake]
  · have hle : headerLength ≤ cut := Nat.not_lt.mp hshort
    have hkept : ∀ start length, start + length ≤ headerLength →
        slice (blob.take cut) start length = slice blob start length :=
      fun start length hfield => slice_take (Nat.le_trans hfield hle)
    have hheader' : HasHeader (blob.take cut) := by
      refine ⟨htake.symm ▸ hle, ?_, ?_⟩
      · rw [hkept 0 4 (by decide)]
        exact hheader.magic_eq
      · rw [storedVersion, hkept 4 2 (by decide)]
        exact hheader.version_eq
    have hstored : storedLength (blob.take cut) = storedLength blob := by
      rw [storedLength, storedLength, hkept 12 4 (by decide)]
    rw [if_neg hshort, decode_incomplete hheader' (by rw [htake, hstored]; exact hcut), hstored,
      htake]

/-! ## 3. The round trip -/

/-- **Decoding a blob undoes encoding it**, for every document with a payload below 2^32 bytes:
    exactly the documents that are one element are decoded, all others are invalid; and a blob that
    was cut off anywhere is refused for its length. -/
theorem decode_encode_roundTrip (room : Nat) {tokens : List Token}
    (h : (Payload.ofTokens tokens).encode.length < 0x100000000) :
    ((∃ levels, IsElement levels tokens) → decode room (encode tokens) = .ok tokens) ∧
      ((∀ levels, ¬IsElement levels tokens) →
        ∃ fault, decode room (encode tokens) = .error (.invalid (.nesting fault))) ∧
      ∀ cut < (encode tokens).length, decode room ((encode tokens).take cut) =
        .error (if cut < headerLength then .lengthMismatch headerLength cut
          else .lengthMismatch (Payload.ofTokens tokens).encode.length (cut - headerLength)) := by
  have hdecode := decode_encode_eq room h
  refine ⟨fun helement => ?_, fun hnone => ?_, fun cut hcut => ?_⟩
  · obtain ⟨levels, helement⟩ := helement
    obtain ⟨depth, hdepth, -⟩ := isElement_iff_measure.mp helement
    rw [hdecode, hdepth]
  · cases hmeasure : measure tokens with
    | error fault =>
      rw [hmeasure] at hdecode
      exact ⟨fault, hdecode⟩
    | ok depth =>
      exact absurd (isElement_iff_measure.mpr ⟨depth, hmeasure, Nat.le_refl depth⟩) (hnone depth)
  · have hstored := storedLength_header (Payload.ofTokens tokens).encode h
    rw [encode_eq] at hcut ⊢
    have htake := decode_take room (hasHeader_header _ _)
      (by rw [hstored, ← length_written]; exact hcut) (Nat.le_of_lt hcut)
    rwa [hstored] at htake

/-- An element with an attribute and an empty text, whole and cut off in the header and behind it,
    and tokens with a second root. -/
theorem decode_encode_roundTrip_cut :
    let tokens : List Token := [.opening "a" [⟨"x", "é\""⟩], .text "", .closing]
    let roots : List Token := [.opening "a" [], .closing, .opening "b" [], .closing]
    ((Payload.ofTokens tokens).encode.length = 16 ∧ IsElement 1 tokens ∧
      decode 0 (encode tokens) = .ok tokens ∧
      decode 0 ((encode tokens).take 31) = .error (.lengthMismatch 32 31) ∧
      decode 0 ((encode tokens).take 47) = .error (.lengthMismatch 16 15)) ∧
    (Payload.ofTokens roots).encode.length < 0x100000000 ∧ (∀ levels, ¬IsElement levels roots) ∧
      ∃ fault, decode 0 (encode roots) = .error (.invalid (.nesting fault)) := by
  intro tokens roots
  have hlength : (Payload.ofTokens tokens).encode.length = 16 := by decide +kernel
  have hroots : (Payload.ofTokens roots).encode.length < 0x100000000 := by decide +kernel
  have helement : IsElement 1 tokens := by decide +kernel
  have hnone : ∀ levels, ¬IsElement levels roots := by
    intro levels h
    obtain ⟨depth, hdepth, -⟩ := isElement_iff_measure.mp h
    cases hdepth
  obtain ⟨hwhole, -, hcut⟩ := decode_encode_roundTrip 0 (hlength ▸ (by decide) :
    (Payload.ofTokens tokens).encode.length < 0x100000000)
  have hbytes : (encode tokens).length = 48 := by
    rw [encode_eq, length_written, hlength]
    rfl
  rw [hlength, hbytes] at hcut
  exact ⟨⟨hlength, helement, hwhole ⟨1, helement⟩, hcut 31 (by decide), hcut 47 (by decide)⟩,
    hroots, hnone, (decode_encode_roundTrip 0 hroots).2.1 hnone⟩

end Verdict.Blob
