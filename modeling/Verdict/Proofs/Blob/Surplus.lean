import Verdict.Proofs.Blob.RoundTrip

/-!
# Bytes of a blob that nobody reads

* `decode_append`: bytes behind the payload change nothing;
* `FallsInto`: the parts of a blob, with those that nobody reads;
* **`decode_surplus`**: a blob that is decoded may hold bytes behind its payload, and in the payload
  behind the document, and any others in their place are as good; of the bytes before them none can
  be left out.
-/

namespace Verdict.Blob

/-! ## 1. Behind the payload -/

/-- A field that is inside a blob is no other in the blob with bytes behind it. -/
theorem slice_append_of_le {blob behind : Bytes} {start length : Nat}
    (h : start + length ≤ blob.length) :
    slice (blob ++ behind) start length = slice blob start length :=
  slice_congr fun _ _ hi => List.getElem?_append_left (Nat.lt_of_lt_of_le hi h)

/-- **Bytes behind the payload change nothing**, be the blob accepted or refused. -/
theorem decode_append (room : Nat) {blob : Bytes} (hheader : headerLength ≤ blob.length)
    (h : headerLength + storedLength blob ≤ blob.length) (behind : Bytes) :
    decode room (blob ++ behind) = decode room blob := by
  have hkept : ∀ start length, start + length ≤ headerLength →
      slice (blob ++ behind) start length = slice blob start length :=
    fun start length hfield => slice_append_of_le (Nat.le_trans hfield hheader)
  have hlength : storedLength (blob ++ behind) = storedLength blob := by
    rw [storedLength, storedLength, hkept 12 4 (by decide)]
  have hversion : storedVersion (blob ++ behind) = storedVersion blob := by
    rw [storedVersion, storedVersion, hkept 4 2 (by decide)]
  have hbytes : storedBytes (blob ++ behind) = storedBytes blob := by
    rw [storedBytes, storedBytes, hlength, slice_append_of_le h]
  have hlonger : blob.length ≤ (blob ++ behind).length := by simp
  by_cases hmagic : slice blob 0 4 = magic
  · by_cases hstated : storedVersion blob = formatVersion
    · have hblob : HasHeader blob := ⟨hheader, hmagic, hstated⟩
      have happended : HasHeader (blob ++ behind) :=
        ⟨Nat.le_trans hheader hlonger, (hkept 0 4 (by decide)).trans hmagic,
          hversion.trans hstated⟩
      rw [decode_of_header hblob, decode_of_header happended, hlength, hbytes,
        hkept 16 16 (by decide), if_neg (Nat.not_lt.mpr h),
        if_neg (Nat.not_lt.mpr (Nat.le_trans h hlonger))]
    · rw [decode_incompatible hheader hmagic hstated,
        decode_incompatible (Nat.le_trans hheader hlonger)
          ((hkept 0 4 (by decide)).trans hmagic) (hversion ▸ hstated), hversion]
  · have happended : slice (blob ++ behind) 0 4 ≠ magic := by
      rw [hkept 0 4 (by decide)]
      exact hmagic
    rw [decode_badMagic hheader hmagic, decode_badMagic (Nat.le_trans hheader hlonger) happended]

/-! ## 2. What an accepted blob holds -/

/-- The parts of a blob: the header, the bytes that are read as the payload, the bytes behind them
    that the header counts and hashes all the same, and the bytes behind those. -/
structure FallsInto (blob head document unread behind : Bytes) (p : Payload) : Prop where
  blob_eq : blob = head ++ (document ++ unread) ++ behind
  length_head : head.length = headerLength
  length_payload : (document ++ unread).length = storedLength blob
  reads : ∀ room, ReadsAs (Payload.decode room) document p

section Parts

variable {blob head document unread behind : Bytes} {p : Payload}

theorem exists_fallsInto (hlength : headerLength + storedLength blob ≤ blob.length)
    (hp : stored? blob = some p) :
    ∃ head document unread behind, FallsInto blob head document unread behind p := by
  obtain ⟨unread, hdecode⟩ := (stored?_eq_some_iff 0).mp hp
  obtain ⟨document, hbytes, hread⟩ := readsFront_payload _ _ _ _ hdecode
  refine ⟨blob.take headerLength, document, unread,
    blob.drop (headerLength + storedLength blob), ?_, ?_, ?_, hread⟩
  · have hsplit : blob.drop headerLength =
        storedBytes blob ++ blob.drop (headerLength + storedLength blob) := by
      rw [← List.drop_drop, storedBytes, slice, List.take_append_drop]
    rw [← hbytes, List.append_assoc, ← hsplit, List.take_append_drop]
  · rw [List.length_take]
    omega
  · rw [← hbytes, storedBytes, length_slice hlength]

namespace FallsInto

variable (h : FallsInto blob head document unread behind p)

include h

theorem length_eq : blob.length = headerLength + storedLength blob + behind.length := by
  rw [h.blob_eq, List.length_append, List.length_append, h.length_head, h.length_payload,
    ← h.blob_eq]

/-- Other bytes behind the payload are as good. -/
theorem decode_behind (room : Nat) (other : Bytes) :
    decode room (head ++ (document ++ unread) ++ other) = decode room blob := by
  have hlength : (head ++ (document ++ unread)).length = headerLength + storedLength blob := by
    rw [List.length_append, h.length_head, h.length_payload]
  have hstored : storedLength (head ++ (document ++ unread)) = storedLength blob := by
    have hfield : slice blob 12 4 = slice (head ++ (document ++ unread)) 12 4 := by
      rw [h.blob_eq]
      refine slice_append_of_le ?_
      rw [hlength]
      exact Nat.le_trans (by decide) (Nat.le_add_right headerLength _)
    rw [storedLength, storedLength, hfield]
  have hheader : headerLength ≤ (head ++ (document ++ unread)).length := by
    rw [hlength]
    exact Nat.le_add_right _ _
  have happend := decode_append room hheader (Nat.le_of_eq (by rw [hstored, hlength]))
  rw [happend other, ← happend behind, ← h.blob_eq]

end FallsInto

end Parts

/-- **A blob that is decoded may hold bytes that nobody reads**: behind its payload, and in the
    payload behind the document. It is as long as its header says exactly if there are none of the
    first kind. Any bytes in their place are accepted, those of the second kind with a header that
    counts and hashes them; but nothing can be cut from the bytes before the end of the payload. -/
theorem decode_surplus {room : Nat} {blob : Bytes} {tokens : List Token}
    (h : decode room blob = .ok tokens) :
    ∃ head document unread behind p, FallsInto blob head document unread behind p ∧
      p.tokens = tokens ∧
      (blob.length = headerLength + storedLength blob ↔ behind = []) ∧
      (∀ room other, decode room (head ++ (document ++ unread) ++ other) = .ok tokens) ∧
      (∀ room other, (document ++ other).length < 0x100000000 →
        decode room (header (document ++ other) ++ (document ++ other)) = .ok tokens) ∧
      ∀ room, ∀ cut < headerLength + storedLength blob,
        ∃ expected, decode room (blob.take cut) = .error (.lengthMismatch expected
          (if cut < headerLength then cut else cut - headerLength)) := by
  obtain ⟨hpasses, p, hp, rfl⟩ := decode_eq_ok_iff.mp h
  have hlength : headerLength + storedLength blob ≤ blob.length := hpasses .payloadLength
  have hheader : HasHeader blob := ⟨hpasses .headerLength, hpasses .magic, hpasses .version⟩
  have hcheck : p.check = .ok () :=
    Payload.check_eq_ok_iff.mpr ⟨hpasses .tokenCount p hp, hpasses .depth p hp⟩
  obtain ⟨head, document, unread, behind, hparts⟩ := exists_fallsInto hlength hp
  refine ⟨head, document, unread, behind, p, hparts, rfl, ?_, fun room other => ?_,
    fun room other hother => ?_, fun room cut hcut => ?_⟩
  · rw [hparts.length_eq, Nat.add_eq_left, List.length_eq_zero_iff]
  · rw [hparts.decode_behind, decode_eq_ok hpasses hp]
  · rw [decode_written hother (hparts.reads room other), hcheck]
  · refine ⟨if cut < headerLength then headerLength else storedLength blob, ?_⟩
    rw [decode_take room hheader hcut (by omega)]
    split <;> rfl

/-- The blob of an element with more bytes in its payload than the document takes, and more behind
    it than its header says, is decoded all the same. -/
theorem decode_with_surplus (room : Nat) {tokens : List Token} {levels : Nat}
    (h : IsElement levels tokens)
    {payload unread : Bytes} (hpayload : payload = (Payload.ofTokens tokens).encode ++ unread)
    (hlength : payload.length < 0x100000000) (behind : Bytes) :
    decode room (header payload ++ payload ++ behind) = .ok tokens := by
  obtain ⟨depth, hdepth, -⟩ := isElement_iff_measure.mp h
  have hdocument : (Payload.ofTokens tokens).encode.length < capacity 8 := by
    rw [hpayload, List.length_append] at hlength
    exact Nat.lt_trans (Nat.lt_of_le_of_lt (Nat.le_add_right _ _) hlength) (by decide)
  have hread : Payload.decode room payload = .ok (Payload.ofTokens tokens, unread) := by
    rw [hpayload]
    exact Payload.readsAs_encode_ofTokens room hdocument unread
  have hstored : headerLength + storedLength (header payload ++ payload) =
      (header payload ++ payload).length := by
    rw [storedLength_header payload hlength, length_written]
  have hcheck : (Payload.ofTokens tokens).check = .ok () := by
    rw [Payload.check_ofTokens, hdepth]
  rw [decode_append room (hasHeader_header payload payload).length_le (Nat.le_of_eq hstored),
    decode_written hlength hread, hcheck]
  rfl

/-- A byte in the payload behind the document, and another one behind the payload. -/
theorem decode_surplus_two_bytes :
    let tokens : List Token := [.opening "a" [], .closing]
    let payload : Bytes := (Payload.ofTokens tokens).encode ++ [7]
    let blob : Bytes := header payload ++ payload ++ [9]
    decode 0 blob = .ok tokens ∧ storedLength blob = 9 ∧ blob.length = 42 ∧
      ∃ head document unread behind p, FallsInto blob head document unread behind p ∧
        behind ≠ [] ∧ decode 0 (head ++ (document ++ unread)) = .ok tokens ∧
        decode 0 (header document ++ document) = .ok tokens := by
  intro tokens payload blob
  have helement : IsElement 1 tokens := by decide +kernel
  have hdecode : decode 0 blob = .ok tokens :=
    decode_with_surplus 0 helement rfl (by decide +kernel) [9]
  have hstored : storedLength blob = 9 := by decide +kernel
  have hlength : blob.length = 42 := by decide +kernel
  obtain ⟨head, document, unread, behind, p, hparts, -, hexact, hbehind, hunread, -⟩ :=
    decode_surplus hdecode
  have hbefore := hbehind 0 []
  have hdocument := hunread 0 []
  rw [List.append_nil] at hbefore hdocument
  have hle : document.length ≤ 9 := by
    rw [← hstored, ← hparts.length_payload, List.length_append]
    exact Nat.le_add_right _ _
  refine ⟨hdecode, hstored, hlength, head, document, unread, behind, p, hparts, fun hnone => ?_,
    hbefore, hdocument (Nat.lt_of_le_of_lt hle (by decide))⟩
  rw [hexact.mpr hnone, hstored] at hlength
  exact absurd hlength (by decide)

/-- A blob that is longer than its header says is accepted, and so is one whose payload is longer
    than the document in it. -/
theorem decode_accepts_surplus :
    let tokens : List Token := [.opening "a" [], .closing]
    let document : Bytes := (Payload.ofTokens tokens).encode
    ((∀ room, decode room (encode tokens ++ [0]) = .ok tokens) ∧
      (encode tokens ++ [0]).length ≠ headerLength + storedLength (encode tokens ++ [0])) ∧
      (∀ room, decode room (header (document ++ [0]) ++ (document ++ [0])) = .ok tokens) ∧
      ∀ room, Payload.decode room (document ++ [0]) = .ok (Payload.ofTokens tokens, [0]) := by
  intro tokens document
  have helement : IsElement 1 tokens := by decide +kernel
  have hwhole : document = document ++ [] := (List.append_nil _).symm
  have hbehind := fun room =>
    decode_with_surplus room helement hwhole (by decide +kernel) [0]
  have hsurplus : document ++ [0] = document ++ [0] := rfl
  have hunread : ∀ room,
      decode room (header (document ++ [0]) ++ (document ++ [0])) = .ok tokens := by
    intro room
    have h := decode_with_surplus room helement hsurplus (by decide +kernel) []
    rwa [List.append_nil] at h
  exact ⟨⟨hbehind, by decide +kernel⟩, hunread,
    fun room => Payload.readsAs_encode_ofTokens room (by decide +kernel) [0]⟩

end Verdict.Blob
