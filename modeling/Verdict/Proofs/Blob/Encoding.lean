import Verdict.Blob.Varint

/-!
# What is stored as bytes is read back

* `ReadsAs`: bytes that are read as a value, whatever comes behind them;
* `capacity`: how many numbers there are in so many bytes;
* `fromLittleEndian_littleEndian`, `fromLittleEndian_inj`: a number in a fixed number of bytes, as
  far as it fits;
* `Varint.readsAs_encode`, `readsAs_encodeText`, `readsAs_encodeList`: numbers, texts and lists.

A length is itself stored as a number of at most eight bytes. Here it is bounded through the bytes
that it counts, so that a bound on the whole covers all of its parts.
-/

namespace Verdict.Blob

/-- These bytes are read as a value, whatever comes behind them. -/
def ReadsAs {α : Type} (decode : Bytes → Outcome Unit (α × Bytes)) (bytes : Bytes) (a : α) : Prop :=
  ∀ rest, decode (bytes ++ rest) = .ok (a, rest)

/-! ## 1. Numbers -/

/-- How many numbers there are in so many bytes. -/
def capacity : Nat → Nat
  | 0 => 1
  | width + 1 => 256 * capacity width

@[simp] theorem length_littleEndian (width n : Nat) : (littleEndian width n).length = width := by
  induction width generalizing n with
  | zero => rfl
  | succ width ih => rw [littleEndian, List.length_cons, ih]

/-- A number in a fixed number of bytes keeps its lowest part. -/
theorem fromLittleEndian_littleEndian (width n : Nat) :
    fromLittleEndian (littleEndian width n) = n % capacity width := by
  induction width generalizing n with
  | zero => exact (Nat.mod_one n).symm
  | succ width ih =>
    have hbyte : (UInt8.ofNat (n % 256)).toNat = n % 256 := by
      rw [UInt8.toNat_ofNat']
      omega
    rw [littleEndian, fromLittleEndian, ih, hbyte, capacity, Nat.mod_mul]

/-- Different bytes, as many of them, are different numbers. -/
theorem fromLittleEndian_inj {a b : Bytes} (hlength : a.length = b.length)
    (h : fromLittleEndian a = fromLittleEndian b) : a = b := by
  induction a generalizing b with
  | nil => exact (List.eq_nil_of_length_eq_zero hlength.symm).symm
  | cons x a ih =>
    cases b with
    | nil => cases hlength
    | cons y b =>
      have hx := x.toNat_lt
      have hy := y.toNat_lt
      rw [fromLittleEndian, fromLittleEndian] at h
      have hhead : x = y := UInt8.toNat_inj.mp (by omega)
      rw [hhead, ih (Nat.succ.inj hlength) (by omega)]

theorem takeBytes_append (bytes rest : Bytes) :
    takeBytes bytes.length (bytes ++ rest) = .ok (bytes, rest) := by
  have hle : bytes.length ≤ (bytes ++ rest).length := by simp
  rw [takeBytes, if_pos hle, List.take_left, List.drop_left]

namespace Varint

/-- A number in one byte is read with every bound on its width. -/
theorem readsAs_encode_small {n : Nat} (h : n < twoByteMark) (widest : Nat) :
    ReadsAs (decode widest) (encode n) n := by
  intro rest
  have hn : n < 251 := h
  have hbyte : (UInt8.ofNat n).toNat = n := by
    rw [UInt8.toNat_ofNat']
    omega
  rw [encode, if_pos h]
  show decode widest (UInt8.ofNat n :: rest) = _
  rw [decode, hbyte, if_pos h]

/-- A number behind a mark is read by the width of this mark. -/
theorem readsAs_marked {widest mark width n : Nat} (hmark : twoByteMark ≤ mark ∧ mark < 256)
    (hwidth : markWidth widest mark = some width) (hn : n < capacity width) :
    ReadsAs (decode widest) (UInt8.ofNat mark :: littleEndian width n) n := by
  intro rest
  have hbyte : (UInt8.ofNat mark).toNat = mark := by
    rw [UInt8.toNat_ofNat']
    omega
  have htake : takeBytes width (littleEndian width n ++ rest) =
      .ok (littleEndian width n, rest) := by
    have h := takeBytes_append (littleEndian width n) rest
    rwa [length_littleEndian] at h
  rw [List.cons_append, decode, hbyte, if_neg (Nat.not_lt.mpr hmark.1), hwidth]
  show (takeBytes width (littleEndian width n ++ rest)).bind _ = _
  rw [htake]
  show Outcome.ok (fromLittleEndian (littleEndian width n), rest) = _
  rw [fromLittleEndian_littleEndian, Nat.mod_eq_of_lt hn]

/-- **A number of at most eight bytes is read back.** -/
theorem readsAs_encode {n : Nat} (h : n < capacity 8) : ReadsAs (decode 8) (encode n) n := by
  by_cases hone : n < twoByteMark
  · exact readsAs_encode_small hone 8
  · rw [encode, if_neg hone]
    split
    · exact readsAs_marked (by decide) rfl ‹_›
    · split
      · exact readsAs_marked (by decide) rfl ‹_›
      · exact readsAs_marked (by decide) rfl h

theorem length_encode_pos (n : Nat) : 0 < (encode n).length := by
  unfold encode
  split
  · exact Nat.one_pos
  · split
    · exact Nat.succ_pos _
    · split <;> exact Nat.succ_pos _

end Varint

/-! ## 2. Texts -/

theorem ofUtf8?_utf8 (s : String) : ofUtf8? (utf8 s) = some s := by
  have hbytes : (⟨(utf8 s).toArray⟩ : ByteArray) = s.toByteArray := rfl
  rw [ofUtf8?, hbytes, String.fromUTF8?, dif_pos s.isValidUTF8]
  rfl

/-- Where all the bytes of a text are there, no other room is asked for. -/
theorem decodeText_of_le {room length : Nat} {s rest : Bytes}
    (hlength : Varint.decode 8 s = .ok (length, rest)) (hle : length ≤ rest.length) :
    decodeText room s = match ofUtf8? (rest.take length) with
      | none => .error ()
      | some text => .ok (text, rest.drop length) := by
  rw [decodeText, hlength]
  show (if rest.length < length ∧ ¬IsAllotted room length then Outcome.crash
    else (takeBytes length rest).bind _) = _
  rw [if_neg fun h => Nat.not_lt.mpr hle h.1, takeBytes, if_pos hle]
  rfl

/-- A text is read back. -/
theorem readsAs_encodeText {s : String} (room : Nat) (h : (encodeText s).length < capacity 8) :
    ReadsAs (decodeText room) (encodeText s) s := by
  intro rest
  rw [encodeText, List.length_append] at h
  have hlength : Varint.decode 8 (encodeText s ++ rest) =
      .ok ((utf8 s).length, utf8 s ++ rest) := by
    rw [encodeText, List.append_assoc]
    exact Varint.readsAs_encode (by omega) _
  rw [decodeText_of_le hlength (by simp), List.take_left, List.drop_left, ofUtf8?_utf8]

/-! ## 3. Lists -/

section Lists

variable {α : Type} {item : α → Bytes} {decodeItem : Bytes → Outcome Unit (α × Bytes)}
variable {items : List α}

/-- Items in a row are read back if each of them is. -/
theorem readsAs_flatMap (h : ∀ a ∈ items, ReadsAs decodeItem (item a) a) :
    ReadsAs (decodeItems decodeItem items.length) (items.flatMap item) items := by
  intro rest
  induction items with
  | nil => rfl
  | cons a items ih =>
    have ih := ih fun b hb => h b (List.mem_cons_of_mem a hb)
    rw [List.length_cons, decodeItems, List.flatMap_cons, List.append_assoc,
      h a List.mem_cons_self]
    show (decodeItems decodeItem items.length (items.flatMap item ++ rest)).bind _ = _
    rw [ih]
    rfl

theorem length_le_length_flatMap (h : ∀ a ∈ items, 0 < (item a).length) :
    items.length ≤ (items.flatMap item).length := by
  induction items with
  | nil => exact Nat.le_refl 0
  | cons a items ih =>
    have ha := h a List.mem_cons_self
    have ih := ih fun b hb => h b (List.mem_cons_of_mem a hb)
    rw [List.flatMap_cons, List.length_append, List.length_cons]
    omega

theorem length_le_length_flatMap_of_mem {a : α} (h : a ∈ items) :
    (item a).length ≤ (items.flatMap item).length := by
  obtain ⟨before, after, rfl⟩ := List.append_of_mem h
  rw [List.flatMap_append, List.flatMap_cons, List.length_append, List.length_append]
  omega

/-- A list is no shorter in bytes than in items, where no item is empty. -/
theorem length_le_length_encodeList (h : ∀ a ∈ items, 0 < (item a).length) :
    items.length ≤ (encodeList item items).length := by
  have hflat := length_le_length_flatMap h
  rw [encodeList, List.length_append]
  omega

/-- **A list is read back if each item of its size is.** -/
theorem readsAs_encodeList (hbytes : (encodeList item items).length < capacity 8)
    (hpos : ∀ a ∈ items, 0 < (item a).length)
    (hitem : ∀ a ∈ items, (item a).length < capacity 8 → ReadsAs decodeItem (item a) a) :
    ReadsAs (decodeList decodeItem) (encodeList item items) items := by
  intro rest
  -- The number of items is stored as well, and has to fit.
  have hcount := length_le_length_encodeList hpos
  have hitems : ∀ a ∈ items, ReadsAs decodeItem (item a) a := by
    intro a ha
    have hle := @length_le_length_flatMap_of_mem α item items a ha
    rw [encodeList, List.length_append] at hbytes
    exact hitem a ha (by omega)
  rw [decodeList, encodeList, List.append_assoc, Varint.readsAs_encode (by omega)]
  exact readsAs_flatMap hitems rest

end Lists

end Verdict.Blob
