import Verdict.Proofs.Blob.Payload

/-!
# What is read is a front of the bytes

Reading a payload takes some bytes from the front and leaves the others. The machine may have more
room or less: what was read on one is read on every other.

* `ReadsFront`: what is read is a front of the bytes, and is read from it on every machine, whatever
  comes behind; with `ReadsFront.bind` and `readsFront_decodeItems` for readings in a row;
* `readsFront_payload`: so are payloads, with everything in them;
* `ReadsFront.of_room`, `ReadsFront.take_ne_ok`: room makes no difference to what is read, and what
  is read of all the bytes is not read of fewer.
-/

namespace Verdict.Blob

variable {α β : Type}

/-! ## 1. Fronts -/

/-- What is read is a front of the bytes, and is read from it on every machine, whatever comes
    behind. -/
def ReadsFront (decode : Nat → Bytes → Outcome Unit (α × Bytes)) : Prop :=
  ∀ room s a rest, decode room s = .ok (a, rest) →
    ∃ bytes, s = bytes ++ rest ∧ ∀ room, ReadsAs (decode room) bytes a

theorem readsFront_pure (a : α) : ReadsFront fun _ s => .ok (a, s) := by
  intro room s a' rest h
  obtain ⟨rfl, rfl⟩ := Prod.mk.inj (Outcome.ok.inj h)
  exact ⟨[], rfl, fun _ _ => rfl⟩

/-- Two readings in a row read a front, the second behind the first. -/
theorem ReadsFront.bind {first : Nat → Bytes → Outcome Unit (α × Bytes)}
    {second : α → Nat → Bytes → Outcome Unit (β × Bytes)} (hfirst : ReadsFront first)
    (hsecond : ∀ a, ReadsFront (second a)) :
    ReadsFront fun room s => (first room s).bind fun (a, rest) => second a room rest := by
  intro room s b rest h
  obtain ⟨⟨a, behind⟩, ha, hb⟩ := Outcome.bind_eq_ok_iff.mp h
  obtain ⟨bytes₁, rfl, hread₁⟩ := hfirst room s a behind ha
  obtain ⟨bytes₂, rfl, hread₂⟩ := hsecond a room behind b rest hb
  refine ⟨bytes₁ ++ bytes₂, (List.append_assoc _ _ _).symm, fun room other => ?_⟩
  show (first room (bytes₁ ++ bytes₂ ++ other)).bind _ = _
  rw [List.append_assoc, hread₁ room]
  exact hread₂ room other

/-- Room makes no difference to what is read. -/
theorem ReadsFront.of_room {decode : Nat → Bytes → Outcome Unit (α × Bytes)}
    (h : ReadsFront decode) {room : Nat} {s : Bytes} {found : α × Bytes}
    (hdecode : decode room s = .ok found) (other : Nat) : decode other s = .ok found := by
  obtain ⟨bytes, rfl, hread⟩ := h room s found.1 found.2 hdecode
  exact hread other found.2

/-- What is read of all the bytes is not read of fewer. -/
theorem ReadsFront.take_ne_ok {decode : Nat → Bytes → Outcome Unit (α × Bytes)}
    (h : ReadsFront decode) {room : Nat} {whole : Bytes} {a : α}
    (hwhole : decode room whole = .ok (a, [])) {length : Nat} (hlength : length < whole.length)
    (found : α × Bytes) : decode room (whole.take length) ≠ .ok found := by
  intro hdecode
  obtain ⟨bytes, hbytes, hread⟩ := h room _ found.1 found.2 hdecode
  -- The same front is read with the missing bytes behind it, and leaves these.
  have hfront := hread room (found.2 ++ whole.drop length)
  rw [← List.append_assoc, ← hbytes, List.take_append_drop, hwhole] at hfront
  have hleft : [] = found.2 ++ whole.drop length := congrArg Prod.snd (Outcome.ok.inj hfront)
  have hmissing : whole.length ≤ length :=
    List.drop_eq_nil_iff.mp (List.append_eq_nil_iff.mp hleft.symm).2
  omega

/-! ## 2. Numbers, texts and lists -/

theorem readsFront_takeBytes (n : Nat) : ReadsFront fun _ => takeBytes n := by
  intro room s bytes rest h
  change takeBytes n s = _ at h
  rw [takeBytes] at h
  split at h
  · rename_i hle
    obtain ⟨rfl, rfl⟩ := Prod.mk.inj (Outcome.ok.inj h)
    refine ⟨s.take n, (List.take_append_drop n s).symm, fun _ other => ?_⟩
    have htake := takeBytes_append (s.take n) other
    rwa [List.length_take, Nat.min_eq_left hle] at htake
  · cases h

theorem Varint.readsFront_decode (widest : Nat) : ReadsFront fun _ => decode widest := by
  intro room s n rest h
  cases s with
  | nil => cases h
  | cons b s =>
    change decode widest (b :: s) = _ at h
    rw [decode] at h
    split at h
    · rename_i hsmall
      obtain ⟨rfl, rfl⟩ := Prod.mk.inj (Outcome.ok.inj h)
      refine ⟨[b], rfl, fun _ other => ?_⟩
      show decode widest (b :: other) = _
      rw [decode, if_pos hsmall]
    · rename_i hmark
      cases hwidth : markWidth widest b.toNat with
      | none =>
        rw [hwidth] at h
        cases h
      | some width =>
        rw [hwidth] at h
        have hbytes : ReadsFront fun _ s =>
            (takeBytes width s).bind fun found => .ok (fromLittleEndian found.1, found.2) :=
          (readsFront_takeBytes width).bind fun bytes => readsFront_pure (fromLittleEndian bytes)
        obtain ⟨bytes, rfl, hread⟩ := hbytes room s n rest h
        refine ⟨b :: bytes, rfl, fun _ other => ?_⟩
        show decode widest (b :: (bytes ++ other)) = _
        rw [decode, if_neg hmark, hwidth]
        exact hread room other

/-- A text is read behind its length, and all of it is there. -/
theorem length_le_of_decodeText {room length : Nat} {s there : Bytes} {found : String × Bytes}
    (h : decodeText room s = .ok found) (hlength : Varint.decode 8 s = .ok (length, there)) :
    length ≤ there.length := by
  obtain ⟨_, hlength', h⟩ := Outcome.bind_eq_ok_iff.mp h
  obtain rfl := Outcome.ok.inj (hlength.symm.trans hlength')
  dsimp only at h
  split at h
  · cases h
  · obtain ⟨taken, htaken, -⟩ := Outcome.bind_eq_ok_iff.mp h
    rw [takeBytes] at htaken
    split at htaken
    · assumption
    · cases htaken

theorem readsFront_decodeText : ReadsFront decodeText := by
  intro room s text rest h
  obtain ⟨⟨length, there⟩, hlength, -⟩ := Outcome.bind_eq_ok_iff.mp h
  have hle := length_le_of_decodeText h hlength
  obtain ⟨number, rfl, hnumber⟩ := Varint.readsFront_decode 8 room s length there hlength
  rw [decodeText_of_le hlength hle] at h
  cases htext : ofUtf8? (there.take length) with
  | none =>
    rw [htext] at h
    cases h
  | some found =>
    rw [htext] at h
    obtain ⟨rfl, rfl⟩ := Prod.mk.inj (Outcome.ok.inj h)
    have htake : (there.take length).length = length := by
      rw [List.length_take, Nat.min_eq_left hle]
    refine ⟨number ++ there.take length, ?_, fun room other => ?_⟩
    · rw [List.append_assoc, List.take_append_drop]
    · rw [List.append_assoc, decodeText_of_le (hnumber 0 _)
        (by rw [List.length_append, htake]; exact Nat.le_add_right _ _),
        List.take_left' htake, List.drop_left' htake, htext]

section Lists

variable {item : Nat → Bytes → Outcome Unit (α × Bytes)}

/-- Items in a row read a front if each of them does. -/
theorem readsFront_decodeItems (h : ReadsFront item) (count : Nat) :
    ReadsFront fun room => decodeItems (item room) count := by
  induction count with
  | zero => exact readsFront_pure []
  | succ count ih => exact h.bind fun a => ih.bind fun as => readsFront_pure (a :: as)

theorem readsFront_decodeList (h : ReadsFront item) :
    ReadsFront fun room => decodeList (item room) :=
  (Varint.readsFront_decode 8).bind fun count => readsFront_decodeItems h count

end Lists

/-! ## 3. Tokens and payloads -/

theorem readsFront_decodeAttribute : ReadsFront decodeAttribute :=
  readsFront_decodeText.bind fun name => readsFront_decodeText.bind fun value =>
    readsFront_pure (Attribute.mk name value)

/-- What is read of a token behind its kind. -/
def decodeTokenOf : Nat → Nat → Bytes → Outcome Unit (Token × Bytes)
  | 0, room, s => (decodeText room s).bind fun (name, rest) =>
    (decodeList (decodeAttribute room) rest).bind fun (attributes, rest) =>
      .ok (.opening name attributes, rest)
  | 1, room, s => (decodeText room s).bind fun (content, rest) => .ok (.text content, rest)
  | 2, _, s => .ok (.closing, s)
  | _, _, _ => .error ()

theorem decodeToken_eq : decodeToken = fun room s =>
    (Varint.decode 4 s).bind fun found => decodeTokenOf found.1 room found.2 := by
  funext room s
  rw [decodeToken]
  cases Varint.decode 4 s with
  | ok found =>
    obtain ⟨kind, rest⟩ := found
    rcases kind with _ | _ | _ | kind <;> rfl
  | error e => rfl
  | crash => rfl

theorem readsFront_decodeTokenOf (kind : Nat) : ReadsFront (decodeTokenOf kind) := by
  rcases kind with _ | _ | _ | kind
  · exact readsFront_decodeText.bind fun name =>
      (readsFront_decodeList readsFront_decodeAttribute).bind fun attributes =>
        readsFront_pure (Token.opening name attributes)
  · exact readsFront_decodeText.bind fun content => readsFront_pure (Token.text content)
  · exact readsFront_pure Token.closing
  · exact fun _ _ _ _ h => nomatch h

theorem readsFront_decodeToken : ReadsFront decodeToken := by
  rw [decodeToken_eq]
  exact (Varint.readsFront_decode 4).bind readsFront_decodeTokenOf

/-- **A payload is a front of its bytes**; what is behind it is not looked at. -/
theorem readsFront_payload : ReadsFront Payload.decode :=
  (Varint.readsFront_decode 8).bind fun tokenCount => (Varint.readsFront_decode 8).bind fun depth =>
    (readsFront_decodeList readsFront_decodeToken).bind fun tokens =>
      readsFront_pure (Payload.mk tokenCount depth tokens)

end Verdict.Blob
