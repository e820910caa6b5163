import Verdict.Proofs.Blob.Front

/-!
# Where a payload ends the program

Only texts ask for room. A payload so ends the program exactly if one of its texts states more bytes
than there are behind it, and more than there is room for.

* `LacksText`: the bytes ahead state such a text;
* `Behind`, `TextInAttribute`, `TextInItems`, `TextInTokenOf`, `TextInPayload`: where in a payload a
  text comes, by the values that are held before it;
* `StopsAt`: a reading crashes exactly at a text that is lacking, with `StopsAt.bind`,
  `StopsAt.behind` and `stopsAt_decodeItems` for readings in a row;
* **`decode_eq_crash_iff`**: payloads crash where they overdraw (`Overdraws`);
* `not_isAllotted_of_take`: a payload that was cut off asks for no more room than all of it takes.
-/

namespace Verdict.Blob

variable {α β : Type}

/-! ## 1. Texts -/

/-- The bytes ahead state the length of a text that is not all there, and that there is no room
    for. -/
def LacksText (room : Nat) (s : Bytes) : Prop :=
  ∃ length rest, Varint.decode 8 s = .ok (length, rest) ∧ rest.length < length ∧
    ¬IsAllotted room length

theorem IsAllotted.mono {room n m : Nat} (h : IsAllotted room n) (hle : m ≤ n) :
    IsAllotted room m :=
  ⟨Nat.le_trans hle h.1, Nat.le_trans hle h.2⟩

theorem takeBytes_ne_crash (n : Nat) (s : Bytes) : takeBytes n s ≠ .crash := by
  unfold takeBytes
  split <;> (intro h; cases h)

theorem Varint.decode_ne_crash (widest : Nat) (s : Bytes) : decode widest s ≠ .crash := by
  intro h
  cases s with
  | nil => cases h
  | cons b s =>
    rw [decode] at h
    split at h
    · cases h
    · cases hwidth : markWidth widest b.toNat with
      | none =>
        rw [hwidth] at h
        cases h
      | some width =>
        rw [hwidth] at h
        rcases Outcome.bind_eq_crash_iff.mp h with h | ⟨_, -, h⟩
        · exact takeBytes_ne_crash width s h
        · cases h

theorem decodeText_eq_crash_iff {room : Nat} {s : Bytes} :
    decodeText room s = .crash ↔ LacksText room s := by
  constructor
  · intro h
    rcases Outcome.bind_eq_crash_iff.mp h with h | ⟨⟨length, rest⟩, hlength, h⟩
    · exact absurd h (Varint.decode_ne_crash 8 s)
    · by_cases hlack : rest.length < length ∧ ¬IsAllotted room length
      · exact ⟨length, rest, hlength, hlack⟩
      · dsimp only at h
        rw [if_neg hlack] at h
        rcases Outcome.bind_eq_crash_iff.mp h with h | ⟨⟨bytes, _⟩, -, h⟩
        · exact absurd h (takeBytes_ne_crash length rest)
        · cases htext : ofUtf8? bytes <;> rw [htext] at h <;> cases h
  · intro h
    obtain ⟨length, rest, hlength, hlack⟩ := h
    exact Outcome.bind_eq_crash_iff.mpr (.inr ⟨_, hlength, if_pos hlack⟩)

/-! ## 2. Where texts come

Each of these says behind which bytes the next thing to be read is a text. -/

/-- What comes behind a value, by the value. -/
inductive Behind (decode : Nat → Bytes → Outcome Unit (α × Bytes)) (Inside : α → Bytes → Prop) :
    Bytes → Prop
  | mk {bytes before : Bytes} {a : α} (held : ∀ room, ReadsAs (decode room) bytes a)
      (inside : Inside a before) : Behind decode Inside (bytes ++ before)

/-- In an attribute, a text comes first, and another one behind it. -/
def TextInAttribute (before : Bytes) : Prop :=
  before = [] ∨ Behind decodeText (fun _ => (· = [])) before

/-- In so many items in a row, a text comes where one does in the first item, or behind this in the
    others. -/
def TextInItems (item : Nat → Bytes → Outcome Unit (α × Bytes)) (Inside : Bytes → Prop) :
    Nat → Bytes → Prop
  | 0, _ => False
  | count + 1, before => Inside before ∨ Behind item (fun _ => TextInItems item Inside count) before

/-- The same in a list, behind the number of its items. -/
def TextInList (item : Nat → Bytes → Outcome Unit (α × Bytes)) (Inside : Bytes → Prop) :
    Bytes → Prop :=
  Behind (fun _ => Varint.decode 8) (TextInItems item Inside)

/-- In a token behind its kind: in an opening one a text comes first, and others in the attributes;
    in a text there is one; in a closing one there is none. -/
def TextInTokenOf : Nat → Bytes → Prop
  | 0, before =>
    before = [] ∨ Behind decodeText (fun _ => TextInList decodeAttribute TextInAttribute) before
  | 1, before => before = []
  | _, _ => False

/-- The same in a token, behind the number for its kind. -/
def TextInToken : Bytes → Prop := Behind (fun _ => Varint.decode 4) TextInTokenOf

/-- In a payload, texts come in the tokens, behind the two numbers. -/
def TextInPayload : Bytes → Prop :=
  Behind (fun _ => Varint.decode 8) fun _ => Behind (fun _ => Varint.decode 8) fun _ =>
    TextInList decodeToken TextInToken

/-- One of the texts in a payload states more bytes than there are behind it, and than there is room
    for. -/
def Overdraws (room : Nat) (s : Bytes) : Prop :=
  ∃ before rest, s = before ++ rest ∧ TextInPayload before ∧ LacksText room rest

/-- The first text of a payload may be a name: that of its first token. -/
theorem textInPayload_name (tokenCount depth count : Nat) (htokens : tokenCount < capacity 8)
    (hdepth : depth < capacity 8) (hcount : count + 1 < capacity 8) :
    TextInPayload (Varint.encode tokenCount ++ (Varint.encode depth ++
      (Varint.encode (count + 1) ++ Varint.encode 0))) := by
  have hname : TextInToken (Varint.encode 0 ++ []) :=
    .mk (fun _ => Varint.readsAs_encode_small (by decide) 4) (.inl rfl)
  rw [List.append_nil] at hname
  exact .mk (fun _ => Varint.readsAs_encode htokens) (.mk (fun _ => Varint.readsAs_encode hdepth)
    (.mk (fun _ => Varint.readsAs_encode hcount) (.inl hname)))

/-! ## 3. Where a reading stops -/

/-- A reading crashes exactly where a text comes that is lacking. -/
def StopsAt (decode : Nat → Bytes → Outcome Unit (α × Bytes)) (Inside : Bytes → Prop) : Prop :=
  ∀ room s, decode room s = .crash ↔
    ∃ before rest, s = before ++ rest ∧ Inside before ∧ LacksText room rest

theorem stopsAt_decodeText : StopsAt decodeText (· = []) := by
  intro room s
  rw [decodeText_eq_crash_iff]
  constructor
  · exact fun h => ⟨[], s, rfl, rfl, h⟩
  · intro h
    obtain ⟨before, rest, rfl, rfl, hlacks⟩ := h
    exact hlacks

/-- A reading that never crashes comes across no text. -/
theorem stopsAt_of_ne_crash {decode : Nat → Bytes → Outcome Unit (α × Bytes)}
    (h : ∀ room s, decode room s ≠ .crash) : StopsAt decode fun _ => False := by
  intro room s
  constructor
  · exact fun hcrash => absurd hcrash (h room s)
  · intro hstop
    obtain ⟨before, rest, -, hinside, -⟩ := hstop
    exact hinside.elim

section Sequences

variable {first : Nat → Bytes → Outcome Unit (α × Bytes)} {Inside : Bytes → Prop}

/-- The values that are read are no matter. -/
theorem StopsAt.map (h : StopsAt first Inside) (f : α → β) :
    StopsAt (fun room s => (first room s).bind fun (a, rest) => .ok (f a, rest)) Inside := by
  intro room s
  rw [← h room s, Outcome.bind_eq_crash_iff]
  refine ⟨fun h => ?_, .inl⟩
  rcases h with hcrash | ⟨_, -, hcrash⟩
  · exact hcrash
  · cases hcrash

variable {second : α → Nat → Bytes → Outcome Unit (β × Bytes)} {InsideOf : α → Bytes → Prop}

/-- Of two readings in a row, the first one stops, or the second one does behind what the first one
    has read. -/
theorem StopsAt.bind (hfront : ReadsFront first) (hfirst : StopsAt first Inside)
    (hsecond : ∀ a, StopsAt (second a) (InsideOf a)) :
    StopsAt (fun room s => (first room s).bind fun (a, rest) => second a room rest)
      fun before => Inside before ∨ Behind first InsideOf before := by
  intro room s
  rw [Outcome.bind_eq_crash_iff]
  constructor
  · intro h
    rcases h with hcrash | ⟨⟨a, behind⟩, hread, hcrash⟩
    · obtain ⟨before, rest, hs, hinside, hlacks⟩ := (hfirst room s).mp hcrash
      exact ⟨before, rest, hs, .inl hinside, hlacks⟩
    · obtain ⟨bytes, rfl, hheld⟩ := hfront room s a behind hread
      obtain ⟨before, rest, rfl, hinside, hlacks⟩ := (hsecond a room behind).mp hcrash
      exact ⟨bytes ++ before, rest, (List.append_assoc _ _ _).symm, .inr ⟨hheld, hinside⟩, hlacks⟩
  · intro h
    obtain ⟨before, rest, rfl, hinside, hlacks⟩ := h
    cases hinside with
    | inl hinside => exact .inl ((hfirst room _).mpr ⟨before, rest, rfl, hinside, hlacks⟩)
    | inr hbehind =>
      obtain @⟨bytes, more, a, hheld, hinside⟩ := hbehind
      have hread : first room (bytes ++ more ++ rest) = .ok (a, more ++ rest) := by
        rw [List.append_assoc]
        exact hheld room (more ++ rest)
      have hcrash : second a room (more ++ rest) = .crash :=
        (hsecond a room _).mpr ⟨more, rest, rfl, hinside, hlacks⟩
      exact .inr ⟨(a, more ++ rest), hread, hcrash⟩

/-- Behind a reading that never crashes, only the second one can stop. -/
theorem StopsAt.behind (hfront : ReadsFront first) (hfirst : ∀ room s, first room s ≠ .crash)
    (hsecond : ∀ a, StopsAt (second a) (InsideOf a)) :
    StopsAt (fun room s => (first room s).bind fun (a, rest) => second a room rest)
      (Behind first InsideOf) := by
  have h := StopsAt.bind hfront (stopsAt_of_ne_crash hfirst) hsecond
  simpa only [StopsAt, false_or] using h

end Sequences

section Lists

variable {item : Nat → Bytes → Outcome Unit (α × Bytes)} {Inside : Bytes → Prop}

theorem stopsAt_decodeItems (hfront : ReadsFront item) (h : StopsAt item Inside) (count : Nat) :
    StopsAt (fun room => decodeItems (item room) count) (TextInItems item Inside count) := by
  induction count with
  | zero => exact stopsAt_of_ne_crash fun _ _ h => by cases h
  | succ count ih => exact h.bind hfront fun a => ih.map (a :: ·)

theorem stopsAt_decodeList (hfront : ReadsFront item) (h : StopsAt item Inside) :
    StopsAt (fun room => decodeList (item room)) (TextInList item Inside) :=
  StopsAt.behind (Varint.readsFront_decode 8) (fun _ => Varint.decode_ne_crash 8)
    (stopsAt_decodeItems hfront h)

end Lists

/-! ## 4. Payloads -/

theorem stopsAt_decodeAttribute : StopsAt decodeAttribute TextInAttribute :=
  stopsAt_decodeText.bind readsFront_decodeText fun name =>
    stopsAt_decodeText.map (Attribute.mk name)

theorem stopsAt_decodeTokenOf (kind : Nat) :
    StopsAt (decodeTokenOf kind) (TextInTokenOf kind) := by
  have hattributes : StopsAt (fun room => decodeList (decodeAttribute room))
      (TextInList decodeAttribute TextInAttribute) :=
    stopsAt_decodeList readsFront_decodeAttribute stopsAt_decodeAttribute
  rcases kind with _ | _ | _ | kind
  · exact stopsAt_decodeText.bind readsFront_decodeText fun name =>
      hattributes.map (Token.opening name)
  · exact stopsAt_decodeText.map Token.text
  · exact stopsAt_of_ne_crash fun _ _ h => by cases h
  · exact stopsAt_of_ne_crash fun _ _ h => by cases h

theorem stopsAt_decodeToken : StopsAt decodeToken TextInToken := by
  rw [decodeToken_eq]
  exact StopsAt.behind (Varint.readsFront_decode 4) (fun _ => Varint.decode_ne_crash 4)
    stopsAt_decodeTokenOf

/-- **A payload ends the program exactly if it overdraws**: one of its texts is not all there, and
    there is no room for it. -/
theorem Payload.decode_eq_crash_iff {room : Nat} {s : Bytes} :
    decode room s = .crash ↔ Overdraws room s := by
  have htokens : StopsAt (fun room => decodeList (decodeToken room))
      (TextInList decodeToken TextInToken) :=
    stopsAt_decodeList readsFront_decodeToken stopsAt_decodeToken
  have h : StopsAt decode TextInPayload :=
    StopsAt.behind (Varint.readsFront_decode 8) (fun _ => Varint.decode_ne_crash 8) fun count =>
      StopsAt.behind (Varint.readsFront_decode 8) (fun _ => Varint.decode_ne_crash 8) fun depth =>
        htokens.map (Payload.mk count depth)
  exact h room s

/-- A payload that was cut off asks for no more room than all of it takes. -/
theorem not_isAllotted_of_take {room cut : Nat} {whole : Bytes} {found : Payload × Bytes}
    (hwhole : Payload.decode room whole = .ok found) (h : Overdraws room (whole.take cut)) :
    ¬IsAllotted room whole.length := by
  obtain ⟨before, rest, htake, hinside, length, there, hlength, hlack, hroom⟩ := h
  obtain ⟨number, rfl, hnumber⟩ := Varint.readsFront_decode 8 room rest length there hlength
  have hsplit : whole = before ++ (number ++ (there ++ whole.drop cut)) := by
    calc whole = whole.take cut ++ whole.drop cut := (List.take_append_drop cut whole).symm
      _ = before ++ (number ++ (there ++ whole.drop cut)) := by
        rw [htake, List.append_assoc, List.append_assoc]
  -- The whole is read even without room, so there the text is all there.
  have hthere : length ≤ (there ++ whole.drop cut).length := by
    refine Nat.not_lt.mp fun hshort => ?_
    have hoverdraws : Overdraws 0 whole :=
      ⟨before, _, hsplit, hinside, length, _, hnumber 0 _, hshort,
        fun hnone => Nat.not_lt_zero _ (Nat.lt_of_lt_of_le hlack hnone.1)⟩
    have hcrash := Payload.decode_eq_crash_iff.mpr hoverdraws
    rw [readsFront_payload.of_room hwhole 0] at hcrash
    cases hcrash
  have hlength : length ≤ whole.length := by
    rw [hsplit, List.length_append, List.length_append]
    omega
  exact fun hallotted => hroom (hallotted.mono hlength)

end Verdict.Blob
