import Verdict.Proofs.Blob.Format
import Verdict.Proofs.Blob.Room
import Verdict.Proofs.Document.Levels

/-!
# The checks of a blob

* `storedVersion`, `storedLength`, `storedBytes`, `stored?`: what a blob says of itself, with
  `storedBytes_header` and the lemmas beside it for written blobs;
* `HasHeader`, `decode_short` and the lemmas behind it: the answer of `decode` at its first five
  checks, and behind them (`decode_of_checksum`);
* `Check`, `Check.Passes`, `Check.Reports`: the nine checks in their order, what each of them asks
  of a blob and what it reports;
* `Ends`, `ends_iff`: the three ends that decoding comes to -- a blob that passes all checks is
  decoded, and the first check that fails is reported, unless it is that of a payload that overdraws;
* `slice?`, `boundedDecode?`: decoding where a field that is not wholly inside the blob is none;
* **`decode_sound`**: no field is ever outside, what is decoded has passed every check, and every
  error is that of the first check that fails;
* `decode_sound_fails`: two payloads that fail their check without an error.
-/

namespace Verdict.Blob

/-! ## 1. What a blob says -/

/-- The version of the format, as the header states it. -/
def storedVersion (blob : Bytes) : Nat := fromLittleEndian (slice blob 4 2)

/-- The length of the payload, as the header states it. -/
def storedLength (blob : Bytes) : Nat := fromLittleEndian (slice blob 12 4)

/-- As many bytes behind the header as it states. -/
def storedBytes (blob : Bytes) : Bytes := slice blob headerLength (storedLength blob)

/-- The payload that these bytes hold. It is all there, and read without any other room. -/
def stored? (blob : Bytes) : Option Payload :=
  match Payload.decode 0 (storedBytes blob) with
  | .ok (p, _) => some p
  | _ => none

variable {room : Nat} {blob : Bytes}

/-- What a blob stores is read from it on every machine. -/
theorem stored?_eq_some_iff (room : Nat) {p : Payload} :
    stored? blob = some p ↔ ∃ rest, Payload.decode room (storedBytes blob) = .ok (p, rest) := by
  unfold stored?
  constructor
  · intro h
    split at h
    · rename_i p' rest hdecode
      obtain rfl := Option.some.inj h
      exact ⟨rest, readsFront_payload.of_room hdecode room⟩
    · cases h
  · intro h
    obtain ⟨rest, hdecode⟩ := h
    rw [readsFront_payload.of_room hdecode 0]

/-- A header of the right length, with the magic and the version of the format. -/
structure HasHeader (blob : Bytes) : Prop where
  length_le : headerLength ≤ blob.length
  magic_eq : slice blob 0 4 = magic
  version_eq : storedVersion blob = formatVersion

/-! ### Written blobs -/

section Written

variable (payload behind : Bytes)

theorem storedVersion_header : storedVersion (header payload ++ behind) = formatVersion := by
  rw [storedVersion, slice_header_version]
  rfl

theorem hasHeader_header : HasHeader (header payload ++ behind) where
  length_le := by
    rw [List.length_append, length_header]
    exact Nat.le_add_right _ _
  magic_eq := slice_header_magic payload behind
  version_eq := storedVersion_header payload behind

/-- The length of a payload is stated as far as four bytes go. -/
theorem storedLength_header_mod :
    storedLength (header payload ++ behind) = payload.length % 0x100000000 := by
  rw [storedLength, slice_header_length, fromLittleEndian_littleEndian]
  rfl

variable {payload}

theorem storedLength_header (h : payload.length < 0x100000000) :
    storedLength (header payload ++ behind) = payload.length := by
  rw [storedLength_header_mod, Nat.mod_eq_of_lt h]

theorem storedBytes_header (h : payload.length < 0x100000000) :
    storedBytes (header payload ++ payload) = payload := by
  rw [storedBytes, storedLength_header payload h, slice_payload]

theorem length_written : (header payload ++ payload).length = headerLength + payload.length := by
  rw [List.length_append, length_header]

end Written

/-! ### The answers of `decode`, check by check -/

theorem decode_short (h : blob.length < headerLength) :
    decode room blob = .error (.lengthMismatch headerLength blob.length) := by
  rw [decode, if_pos h]

theorem decode_badMagic (hlength : headerLength ≤ blob.length) (h : slice blob 0 4 ≠ magic) :
    decode room blob = .error .badMagic := by
  rw [decode, if_neg (Nat.not_lt.mpr hlength), if_pos h]

theorem decode_incompatible (hlength : headerLength ≤ blob.length)
    (hmagic : slice blob 0 4 = magic) (h : storedVersion blob ≠ formatVersion) :
    decode room blob = .error (.incompatibleVersion (storedVersion blob) formatVersion) := by
  rw [decode, if_neg (Nat.not_lt.mpr hlength), if_neg fun hne => hne hmagic]
  exact if_pos h

/-- What is left to decide behind a header. -/
theorem decode_of_header (h : HasHeader blob) :
    decode room blob =
      if blob.length < headerLength + storedLength blob then
        .error (.lengthMismatch (storedLength blob) (blob.length - headerLength))
      else if checksum (storedBytes blob) ≠ slice blob 16 16 then .error .checksumMismatch
      else match Payload.decode room (storedBytes blob) with
        | .crash => .crash
        | .error () => .error .undecodable
        | .ok (p, _) => match p.check with
          | .error fault => .error (.invalid fault)
          | .ok () => .ok p.tokens := by
  rw [decode, if_neg (Nat.not_lt.mpr h.length_le), if_neg fun hne => hne h.magic_eq]
  exact if_neg fun hne => hne h.version_eq

theorem decode_incomplete (hheader : HasHeader blob)
    (h : blob.length < headerLength + storedLength blob) :
    decode room blob =
      .error (.lengthMismatch (storedLength blob) (blob.length - headerLength)) := by
  rw [decode_of_header hheader, if_pos h]

theorem decode_mismatch (hheader : HasHeader blob)
    (hlength : headerLength + storedLength blob ≤ blob.length)
    (h : checksum (storedBytes blob) ≠ slice blob 16 16) :
    decode room blob = .error .checksumMismatch := by
  rw [decode_of_header hheader, if_neg (Nat.not_lt.mpr hlength), if_pos h]

/-- Behind the checksum, the answer depends on the payload only. -/
theorem decode_of_checksum (hheader : HasHeader blob)
    (hlength : headerLength + storedLength blob ≤ blob.length)
    (h : checksum (storedBytes blob) = slice blob 16 16) :
    decode room blob = match Payload.decode room (storedBytes blob) with
      | .crash => .crash
      | .error () => .error .undecodable
      | .ok (p, _) => match p.check with
        | .error fault => .error (.invalid fault)
        | .ok () => .ok p.tokens := by
  rw [decode_of_header hheader, if_neg (Nat.not_lt.mpr hlength), if_neg fun hne => hne h]

/-! ## 2. Payloads -/

/-- A payload is right if it states the number of its tokens and the depth of their one element. -/
theorem Payload.check_eq_ok_iff {p : Payload} :
    p.check = .ok () ↔ p.tokenCount = p.tokens.length ∧ SingleElement p.depth p.tokens := by
  rw [← measure_eq_ok_iff_singleElement, check]
  by_cases hcount : p.tokenCount = p.tokens.length
  · rw [if_neg fun hne => hne hcount]
    cases hmeasure : measure p.tokens with
    | error fault => simp
    | ok depth =>
      by_cases hdepth : p.depth = depth
      · simp [hcount, hdepth]
      · simp [hdepth, eq_comm (a := depth)]
  · rw [if_pos hcount]
    simp [hcount]

/-! ## 3. The first check that fails -/

/-- What is asked of a blob. -/
inductive Check where
  | headerLength
  | magic
  | version
  | payloadLength
  | checksum
  | payload
  | tokenCount
  | balance
  | depth
  deriving DecidableEq

namespace Check

/-- The order in which the checks are made. -/
def order : List Check :=
  [headerLength, magic, version, payloadLength, checksum, payload, tokenCount, balance, depth]

/-- The place of a check in the order. -/
def rank (check : Check) : Nat := order.idxOf check

/-- What a check asks. Those that follow the payload say nothing where it holds no tokens. -/
def Passes (blob : Bytes) : Check → Prop
  | headerLength => Blob.headerLength ≤ blob.length
  | magic => slice blob 0 4 = Blob.magic
  | version => storedVersion blob = formatVersion
  | payloadLength => Blob.headerLength + storedLength blob ≤ blob.length
  | checksum => Blob.checksum (storedBytes blob) = slice blob 16 16
  | payload => ∃ p, stored? blob = some p
  | tokenCount => ∀ p, stored? blob = some p → p.tokenCount = p.tokens.length
  | balance => ∀ p, stored? blob = some p → ∃ depth, SingleElement depth p.tokens
  | depth => ∀ p, stored? blob = some p → SingleElement p.depth p.tokens

/-- The error of a check. -/
inductive Reports (blob : Bytes) : Check → BlobError → Prop
  | headerLength : Reports blob headerLength (.lengthMismatch Blob.headerLength blob.length)
  | magic : Reports blob magic .badMagic
  | version : Reports blob version (.incompatibleVersion (storedVersion blob) formatVersion)
  | payloadLength : Reports blob payloadLength
      (.lengthMismatch (storedLength blob) (blob.length - Blob.headerLength))
  | checksum : Reports blob checksum .checksumMismatch
  | payload : Reports blob payload .undecodable
  | tokenCount {p : Payload} (stored : stored? blob = some p) :
      Reports blob tokenCount (.invalid (.tokenCount p.tokenCount p.tokens.length))
  | balance {p : Payload} {fault : NestingFault} (stored : stored? blob = some p)
      (measured : measure p.tokens = .error fault) :
      Reports blob balance (.invalid (.nesting fault))
  | depth {p : Payload} {found : Nat} (stored : stored? blob = some p)
      (element : SingleElement found p.tokens) :
      Reports blob depth (.invalid (.depth p.depth found))

/-- All checks before this one pass. -/
def Reached (blob : Bytes) (check : Check) : Prop :=
  ∀ earlier : Check, earlier.rank < check.rank → earlier.Passes blob

theorem Reached.mono {check later : Check} (h : later.Reached blob)
    (hle : check.rank ≤ later.rank) : check.Reached blob :=
  fun earlier hearlier => h earlier (Nat.lt_of_lt_of_le hearlier hle)

theorem Reached.hasHeader (h : payloadLength.Reached blob) : HasHeader blob :=
  ⟨h headerLength (by decide), h magic (by decide), h version (by decide)⟩

/-- Every blob passes all checks, or there is a first one that fails. -/
theorem passes_or_exists_first (blob : Bytes) :
    (∀ check, Passes blob check) ∨ ∃ check, Reached blob check ∧ ¬check.Passes blob := by
  by_cases h : ∃ check, Reached blob check ∧ ¬check.Passes blob
  · exact .inr h
  · refine .inl fun check => ?_
    induction hn : check.rank using Nat.strongRecOn generalizing check with
    | _ n ih =>
      by_cases hcheck : check.Passes blob
      · exact hcheck
      · exact absurd ⟨check, fun earlier hlt => ih _ (hn ▸ hlt) earlier rfl, hcheck⟩ h

/-- The first check that fails has something to report. -/
theorem exists_reports {check : Check} (h : check.Reached blob) (hfails : ¬check.Passes blob) :
    ∃ e, check.Reports blob e := by
  cases check with
  | headerLength => exact ⟨_, .headerLength⟩
  | magic => exact ⟨_, .magic⟩
  | version => exact ⟨_, .version⟩
  | payloadLength => exact ⟨_, .payloadLength⟩
  | checksum => exact ⟨_, .checksum⟩
  | payload => exact ⟨_, .payload⟩
  | tokenCount =>
    obtain ⟨p, hp⟩ := h payload (by decide)
    exact ⟨_, .tokenCount hp⟩
  | balance =>
    obtain ⟨p, hp⟩ := h payload (by decide)
    cases hmeasure : measure p.tokens with
    | error fault => exact ⟨_, .balance hp hmeasure⟩
    | ok depth =>
      refine absurd (fun p' hp' => ?_) hfails
      obtain rfl := Option.some.inj (hp.symm.trans hp')
      exact ⟨depth, measure_eq_ok_iff_singleElement.mp hmeasure⟩
  | depth =>
    obtain ⟨p, hp⟩ := h payload (by decide)
    obtain ⟨found, hfound⟩ := h balance (by decide) p hp
    exact ⟨_, .depth hp hfound⟩

end Check

/-- A written blob passes the checks before that of its payload. -/
theorem Check.reached_header {payload : Bytes} (h : payload.length < 0x100000000) :
    Check.payload.Reached (header payload ++ payload) := by
  have hheader := hasHeader_header payload payload
  intro earlier hearlier
  cases earlier with
  | headerLength => exact hheader.length_le
  | magic => exact hheader.magic_eq
  | version => exact hheader.version_eq
  | payloadLength =>
    have hlength : Blob.headerLength + storedLength (header payload ++ payload) =
        (header payload ++ payload).length := by
      rw [storedLength_header payload h, length_written]
    exact Nat.le_of_eq hlength
  | checksum =>
    have hchecksum : Blob.checksum (storedBytes (header payload ++ payload)) =
        slice (header payload ++ payload) 16 16 := by
      rw [storedBytes_header h, slice_header_checksum]
    exact hchecksum
  | payload | tokenCount | balance | depth => exact absurd hearlier (by decide)

/-- Behind the payload, the answer is that of its own checks. -/
theorem decode_of_stored {p : Payload} (h : Check.payload.Reached blob)
    (hp : stored? blob = some p) :
    decode room blob = match p.check with
      | .error fault => .error (.invalid fault)
      | .ok () => .ok p.tokens := by
  obtain ⟨rest, hdecode⟩ := (stored?_eq_some_iff room).mp hp
  rw [decode_of_checksum (h.mono (by decide)).hasHeader (h .payloadLength (by decide))
    (h .checksum (by decide)), hdecode]

/-- A payload that overdraws holds no tokens. -/
theorem Check.not_passes_of_overdraws (h : Overdraws room (storedBytes blob)) :
    ¬Check.payload.Passes blob := by
  intro hpasses
  obtain ⟨p, hp⟩ := hpasses
  obtain ⟨rest, hdecode⟩ := (stored?_eq_some_iff room).mp hp
  rw [Payload.decode_eq_crash_iff.mpr h] at hdecode
  cases hdecode

/-- A payload that overdraws ends the program. -/
theorem decode_eq_crash (h : Check.payload.Reached blob)
    (hoverdraws : Overdraws room (storedBytes blob)) : decode room blob = .crash := by
  rw [decode_of_checksum (h.mono (by decide)).hasHeader (h .payloadLength (by decide))
    (h .checksum (by decide)), Payload.decode_eq_crash_iff.mpr hoverdraws]

/-- A payload that does not hold tokens is undecodable, unless it overdraws. -/
theorem decode_undecodable (h : Check.payload.Reached blob) (hnone : ∀ p, stored? blob ≠ some p)
    (hroom : ¬Overdraws room (storedBytes blob)) : decode room blob = .error .undecodable := by
  rw [decode_of_checksum (h.mono (by decide)).hasHeader (h .payloadLength (by decide))
    (h .checksum (by decide))]
  cases hdecode : Payload.decode room (storedBytes blob) with
  | ok found => exact absurd ((stored?_eq_some_iff room).mpr ⟨found.2, hdecode⟩) (hnone found.1)
  | error e => rfl
  | crash => exact absurd (Payload.decode_eq_crash_iff.mp hdecode) hroom

/-- **The first check that fails is reported**, unless it is that of a payload that overdraws. -/
theorem decode_eq_error {check : Check} {e : BlobError} (h : check.Reached blob)
    (hfails : ¬check.Passes blob) (hreports : check.Reports blob e)
    (hroom : check = .payload → ¬Overdraws room (storedBytes blob)) :
    decode room blob = .error e := by
  cases hreports with
  | headerLength => exact decode_short (Nat.not_le.mp hfails)
  | magic => exact decode_badMagic (h .headerLength (by decide)) hfails
  | version =>
    exact decode_incompatible (h .headerLength (by decide)) (h .magic (by decide)) hfails
  | payloadLength => exact decode_incomplete h.hasHeader (Nat.not_le.mp hfails)
  | checksum =>
    exact decode_mismatch (h.mono (by decide)).hasHeader (h .payloadLength (by decide)) hfails
  | payload => exact decode_undecodable h (fun p hp => hfails ⟨p, hp⟩) (hroom rfl)
  | @tokenCount p hp =>
    have hne : p.tokenCount ≠ p.tokens.length := by
      intro heq
      refine hfails fun p' hp' => ?_
      obtain rfl := Option.some.inj (hp.symm.trans hp')
      exact heq
    rw [decode_of_stored (h.mono (by decide)) hp, Payload.check, if_pos hne]
  | balance hp hmeasure =>
    have hcount := h .tokenCount (by decide) _ hp
    rw [decode_of_stored (h.mono (by decide)) hp, Payload.check, if_neg fun hne => hne hcount,
      hmeasure]
  | @depth p found hp hfound =>
    have hcount := h .tokenCount (by decide) _ hp
    have hne : p.depth ≠ found := by
      rintro rfl
      refine hfails fun p' hp' => ?_
      obtain rfl := Option.some.inj (hp.symm.trans hp')
      exact hfound
    rw [decode_of_stored (h.mono (by decide)) hp, Payload.check, if_neg fun hne => hne hcount,
      measure_eq_ok_iff_singleElement.mpr hfound]
    dsimp only
    rw [if_pos hne]

/-- A blob that passes all checks is decoded to the tokens that it stores. -/
theorem decode_eq_ok {p : Payload} (h : ∀ check, Check.Passes blob check)
    (hp : stored? blob = some p) : decode room blob = .ok p.tokens := by
  have hcheck := Payload.check_eq_ok_iff.mpr ⟨h .tokenCount p hp, h .depth p hp⟩
  rw [decode_of_stored (fun earlier _ => h earlier) hp, hcheck]

/-- What decoding a blob comes to, by its checks. -/
inductive Ends (room : Nat) (blob : Bytes) : Outcome BlobError (List Token) → Prop
  | ok {p : Payload} (passes : ∀ check, Check.Passes blob check) (stored : stored? blob = some p) :
      Ends room blob (.ok p.tokens)
  | error {check : Check} {e : BlobError} (reached : check.Reached blob)
      (fails : ¬check.Passes blob) (reports : check.Reports blob e)
      (enough : check = .payload → ¬Overdraws room (storedBytes blob)) : Ends room blob (.error e)
  | crash (reached : Check.payload.Reached blob) (overdraws : Overdraws room (storedBytes blob)) :
      Ends room blob .crash

theorem decode_eq_of_ends {outcome : Outcome BlobError (List Token)}
    (h : Ends room blob outcome) : decode room blob = outcome := by
  cases h with
  | ok passes stored => exact decode_eq_ok passes stored
  | error reached fails reports enough => exact decode_eq_error reached fails reports enough
  | crash reached overdraws => exact decode_eq_crash reached overdraws

/-- **Every blob comes to one of these ends**, and to no other. -/
theorem ends_iff {outcome : Outcome BlobError (List Token)} :
    Ends room blob outcome ↔ decode room blob = outcome := by
  refine ⟨decode_eq_of_ends, fun hdecode => ?_⟩
  suffices h : ∃ outcome, Ends room blob outcome by
    obtain ⟨outcome', h⟩ := h
    rwa [← hdecode, decode_eq_of_ends h]
  rcases Check.passes_or_exists_first blob with hpasses | ⟨check, hreached, hfails⟩
  · obtain ⟨p, hp⟩ := hpasses .payload
    exact ⟨_, .ok hpasses hp⟩
  · by_cases hcrash : check = .payload ∧ Overdraws room (storedBytes blob)
    · exact ⟨_, .crash (hcrash.1 ▸ hreached) hcrash.2⟩
    · obtain ⟨e, he⟩ := Check.exists_reports hreached hfails
      exact ⟨_, .error hreached hfails he fun hpayload hoverdraws =>
        hcrash ⟨hpayload, hoverdraws⟩⟩

theorem decode_eq_ok_iff {tokens : List Token} : decode room blob = .ok tokens ↔
    (∀ check, Check.Passes blob check) ∧ ∃ p, stored? blob = some p ∧ p.tokens = tokens := by
  rw [← ends_iff]
  constructor
  · intro h
    cases h with
    | ok passes stored => exact ⟨passes, _, stored, rfl⟩
  · intro h
    obtain ⟨hpasses, p, hp, rfl⟩ := h
    exact .ok hpasses hp

theorem decode_eq_error_iff {e : BlobError} : decode room blob = .error e ↔
    ∃ check : Check, check.Reached blob ∧ ¬check.Passes blob ∧ check.Reports blob e ∧
      (check = .payload → ¬Overdraws room (storedBytes blob)) := by
  rw [← ends_iff]
  constructor
  · intro h
    cases h with
    | error reached fails reports enough => exact ⟨_, reached, fails, reports, enough⟩
  · intro h
    obtain ⟨check, hreached, hfails, hreports, henough⟩ := h
    exact .error hreached hfails hreports henough

theorem decode_eq_crash_iff : decode room blob = .crash ↔
    Check.payload.Reached blob ∧ Overdraws room (storedBytes blob) := by
  rw [← ends_iff]
  constructor
  · intro h
    cases h with
    | crash reached overdraws => exact ⟨reached, overdraws⟩
  · exact fun h => .crash h.1 h.2

/-! ## 4. No field is outside -/

/-- The bytes from `start` on, exactly `length` of them; none if they are not all there. -/
def slice? (bytes : Bytes) (start length : Nat) : Option Bytes :=
  if start + length ≤ bytes.length then some (slice bytes start length) else none

theorem slice?_eq_some {bytes : Bytes} {start length : Nat} (h : start + length ≤ bytes.length) :
    slice? bytes start length = some (slice bytes start length) := if_pos h

/-- Decoding by fields that have to be there when they are read: none as soon as one of them is not
    wholly inside the bytes that it is taken from. -/
def boundedDecode? (room : Nat) (blob : Bytes) : Option (Outcome BlobError (List Token)) :=
  if blob.length < headerLength then some (.error (.lengthMismatch headerLength blob.length))
  else
    (slice? blob 0 4).bind fun start =>
    if start ≠ magic then some (.error .badMagic)
    else
      (slice? blob 4 2).bind fun version =>
      (slice? blob 12 4).bind fun length =>
      (slice? blob 16 16).bind fun hash =>
      let version := fromLittleEndian version
      let length := fromLittleEndian length
      if version ≠ formatVersion then some (.error (.incompatibleVersion version formatVersion))
      else if blob.length < headerLength + length then
        some (.error (.lengthMismatch length (blob.length - headerLength)))
      else
        (slice? blob headerLength length).bind fun payload =>
        (slice? (blake3 payload) 0 16).bind fun computed =>
        if computed ≠ hash then some (.error .checksumMismatch)
        else
          match Payload.decode room payload with
          | .crash => some .crash
          | .error () => some (.error .undecodable)
          | .ok (p, _) =>
            match p.check with
            | .error fault => some (.error (.invalid fault))
            | .ok () => some (.ok p.tokens)

/-- **Every field that is read is there.** -/
theorem boundedDecode?_eq (room : Nat) (blob : Bytes) :
    boundedDecode? room blob = some (decode room blob) := by
  have hhash : ∀ payload, slice? (blake3 payload) 0 16 = some (checksum payload) := by
    intro payload
    rw [slice?_eq_some (by rw [length_blake3]; decide)]
    rfl
  unfold boundedDecode? decode
  by_cases hshort : blob.length < headerLength
  · rw [if_pos hshort, if_pos hshort]
  · have hheader : 32 ≤ blob.length := Nat.not_lt.mp hshort
    rw [if_neg hshort, if_neg hshort, slice?_eq_some (by omega), Option.bind_some]
    by_cases hmagic : slice blob 0 4 ≠ magic
    · rw [if_pos hmagic, if_pos hmagic]
    · rw [if_neg hmagic, if_neg hmagic, slice?_eq_some (by omega), slice?_eq_some (by omega),
        slice?_eq_some (by omega)]
      simp only [Option.bind_some]
      by_cases hversion : fromLittleEndian (slice blob 4 2) ≠ formatVersion
      · rw [if_pos hversion, if_pos hversion]
      · rw [if_neg hversion, if_neg hversion]
        by_cases hlength : blob.length < headerLength + fromLittleEndian (slice blob 12 4)
        · rw [if_pos hlength, if_pos hlength]
        · rw [if_neg hlength, if_neg hlength, slice?_eq_some (Nat.not_lt.mp hlength),
            Option.bind_some, hhash, Option.bind_some]
          split
          · rfl
          · cases Payload.decode room
              (slice blob headerLength (fromLittleEndian (slice blob 12 4))) with
            | ok found =>
              dsimp only
              cases found.1.check <;> rfl
            | error e => rfl
            | crash => rfl

/-- **Decoding is sound on arbitrary bytes.** Every field that is read lies inside the blob; tokens
    are answered exactly if all checks pass, and they are the tokens that the payload stores; and an
    error is always that of the first check, in their order, that fails. Not every check that fails
    is reported, though: the program ends without an answer exactly where the payload is reached and
    one of its texts states more bytes than there are and than there is room for. -/
theorem decode_sound (room : Nat) (blob : Bytes) :
    boundedDecode? room blob = some (decode room blob) ∧
      (∀ tokens, decode room blob = .ok tokens ↔
        (∀ check, Check.Passes blob check) ∧ ∃ p, stored? blob = some p ∧ p.tokens = tokens) ∧
      (∀ e, decode room blob = .error e ↔
        ∃ check, Check.Reached blob check ∧ ¬check.Passes blob ∧ check.Reports blob e ∧
          (check = .payload → ¬Overdraws room (storedBytes blob))) ∧
      (decode room blob = .crash ↔
        Check.payload.Reached blob ∧ Overdraws room (storedBytes blob)) :=
  ⟨boundedDecode?_eq room blob, fun _ => decode_eq_ok_iff, fun _ => decode_eq_error_iff,
    decode_eq_crash_iff⟩

/-- A name that states 2^64 - 1 bytes, more than any text has, and one that states 2^62, more than
    there is room for: their payloads are counted and hashed as they should be, and hold no tokens,
    and nothing is reported. -/
theorem decode_sound_fails :
    let most : Bytes := [1, 1, 1, 0, 0xFD, 0xFF, 0xFF, 0xFF, 0xFF, 0xFF, 0xFF, 0xFF, 0xFF]
    let large : Bytes := [1, 1, 1, 0, 0xFD, 0, 0, 0, 0, 0, 0, 0, 0x40]
    (Check.payload.Reached (header most ++ most) ∧ ¬Check.payload.Passes (header most ++ most) ∧
      ∀ room, decode room (header most ++ most) = .crash) ∧
    Check.payload.Reached (header large ++ large) ∧ ¬Check.payload.Passes (header large ++ large) ∧
      ∀ room < 0x4000000000000000, decode room (header large ++ large) = .crash := by
  intro most large
  have hname : TextInPayload [1, 1, 1, 0] :=
    textInPayload_name 1 1 0 (by decide) (by decide) (by decide)
  have hmost : ∀ room, Overdraws room (storedBytes (header most ++ most)) := by
    intro room
    rw [storedBytes_header (by decide)]
    exact ⟨[1, 1, 1, 0], _, rfl, hname, 0xFFFFFFFFFFFFFFFF, [], rfl, by decide,
      fun h => absurd h.2 (by decide)⟩
  have hlarge : ∀ room < 0x4000000000000000,
      Overdraws room (storedBytes (header large ++ large)) := by
    intro room hroom
    rw [storedBytes_header (by decide)]
    exact ⟨[1, 1, 1, 0], _, rfl, hname, 0x4000000000000000, [], rfl, by decide,
      fun h => Nat.not_le.mpr hroom h.1⟩
  have hreached : ∀ payload : Bytes, payload.length = 13 →
      Check.payload.Reached (header payload ++ payload) :=
    fun payload hlength => Check.reached_header (hlength ▸ by decide)
  exact ⟨⟨hreached most rfl, Check.not_passes_of_overdraws (hmost 0),
      fun room => decode_eq_crash (hreached most rfl) (hmost room)⟩,
    hreached large rfl, Check.not_passes_of_overdraws (hlarge 0 (by decide)),
    fun room hroom => decode_eq_crash (hreached large rfl) (hlarge room hroom)⟩

end Verdict.Blob
