import Verdict.Outcome

/-!
# Numbers and texts as bytes

* `littleEndian`, `fromLittleEndian`: a number in a fixed number of bytes, lowest first;
* `Varint.encode`, `Varint.decode`: a number in as many bytes as it needs -- one byte up to 250,
  otherwise a mark and two, four or eight bytes. A longer form than needed is read as well;
* `encodeText`, `decodeText`: a text as the number of its bytes and its bytes in UTF-8;
* `encodeList`, `decodeList`: a list as the number of its items and the items.

Every reading function takes the bytes ahead and answers a value with the bytes behind it.

Room for a text is set aside before its bytes are read, on the word of the number in front of them.
Where this number is larger than that of the bytes that are there, there may be no such room
(`IsAllotted`), and then nothing is answered. Lists grow item by item.
-/

namespace Verdict.Blob

/-- A run of bytes. -/
abbrev Bytes := List UInt8

/-- The lowest `width` bytes of a number, lowest first. -/
def littleEndian : Nat → Nat → Bytes
  | 0, _ => []
  | width + 1, n => UInt8.ofNat (n % 256) :: littleEndian width (n / 256)

/-- The number with these bytes, lowest first. -/
def fromLittleEndian : Bytes → Nat
  | [] => 0
  | b :: rest => b.toNat + 256 * fromLittleEndian rest

/-- Takes exactly `n` bytes. -/
def takeBytes (n : Nat) (s : Bytes) : Outcome Unit (Bytes × Bytes) :=
  if n ≤ s.length then .ok (s.take n, s.drop n) else .error ()

namespace Varint

/-- The mark before two bytes, and the least number that takes them. -/
def twoByteMark : Nat := 251

/-- The mark before four bytes. -/
def fourByteMark : Nat := 252

/-- The mark before eight bytes. -/
def eightByteMark : Nat := 253

/-- A number below 2^64 in the fewest bytes. -/
def encode (n : Nat) : Bytes :=
  if n < twoByteMark then [UInt8.ofNat n]
  else if n < 0x10000 then UInt8.ofNat twoByteMark :: littleEndian 2 n
  else if n < 0x100000000 then UInt8.ofNat fourByteMark :: littleEndian 4 n
  else UInt8.ofNat eightByteMark :: littleEndian 8 n

/-- The number of bytes that follow a mark, of at most `widest`; none for a byte that is no mark. -/
def markWidth (widest mark : Nat) : Option Nat :=
  let width :=
    if mark = twoByteMark then some 2
    else if mark = fourByteMark then some 4
    else if mark = eightByteMark then some 8
    else none
  width.filter (· ≤ widest)

/-- A number of at most `widest` bytes. -/
def decode (widest : Nat) : Bytes → Outcome Unit (Nat × Bytes)
  | [] => .error ()
  | b :: rest =>
    if b.toNat < twoByteMark then .ok (b.toNat, rest)
    else
      match markWidth widest b.toNat with
      | none => .error ()
      | some width => do
        let (bytes, rest) ← takeBytes width rest
        return (fromLittleEndian bytes, rest)

end Varint

/-- The bytes of a text in UTF-8. -/
def utf8 (s : String) : Bytes := s.toByteArray.data.toList

/-- The text with these bytes in UTF-8, if they are well-formed. -/
def ofUtf8? (bytes : Bytes) : Option String := String.fromUTF8? ⟨bytes.toArray⟩

/-- The number of bytes of a text, and its bytes. -/
def encodeText (s : String) : Bytes := Varint.encode (utf8 s).length ++ utf8 s

/-- The most bytes that a text can have. -/
def maxAllotment : Nat := 0x7FFFFFFFFFFFFFFF

/-- Room for a text of this many bytes can be set aside: the machine has it, and texts get that
    long. -/
def IsAllotted (room length : Nat) : Prop := length ≤ room ∧ length ≤ maxAllotment

instance (room length : Nat) : Decidable (IsAllotted room length) :=
  inferInstanceAs (Decidable (_ ∧ _))

/-- A text behind the number of its bytes. For bytes that are there, there is always room; `room` is
    what the machine has for others. -/
def decodeText (room : Nat) (s : Bytes) : Outcome Unit (String × Bytes) := do
  let (length, rest) ← Varint.decode 8 s
  if rest.length < length ∧ ¬IsAllotted room length then .crash
  else
    let (bytes, rest) ← takeBytes length rest
    match ofUtf8? bytes with
    | none => .error ()
    | some text => return (text, rest)

/-- The number of items of a list, and the items. -/
def encodeList {α : Type} (item : α → Bytes) (items : List α) : Bytes :=
  Varint.encode items.length ++ items.flatMap item

/-- A number of items in a row. -/
def decodeItems {α : Type} (item : Bytes → Outcome Unit (α × Bytes)) :
    Nat → Bytes → Outcome Unit (List α × Bytes)
  | 0, s => return ([], s)
  | count + 1, s => do
    let (a, rest) ← item s
    let (as, rest) ← decodeItems item count rest
    return (a :: as, rest)

/-- A list behind the number of its items. -/
def decodeList {α : Type} (item : Bytes → Outcome Unit (α × Bytes)) (s : Bytes) :
    Outcome Unit (List α × Bytes) := do
  let (count, rest) ← Varint.decode 8 s
  decodeItems item count rest

end Verdict.Blob
