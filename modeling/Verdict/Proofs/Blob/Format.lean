import Verdict.Blob.Format
import Verdict.Proofs.Blob.Encoding

/-!
# The fields of a blob

* `slice_append`, `slice_congr`: a field between the bytes before it and those behind it, and the
  positions that a field depends on;
* `length_header`, `slice_header_magic` and the lemmas behind it: the header has 32 bytes, and
  where its fields stand.
-/

namespace Verdict.Blob

/-! ## 1. The hash -/

/-- The hash has 32 bytes. -/
theorem length_blake3 (bytes : Bytes) : (blake3 bytes).length = 32 := by
  have hwords : ∀ words : Blake3.Chain,
      (words.toList.flatMap fun word => littleEndian 4 word.toNat).length = 32 := by
    intro words
    simp only [List.length_flatMap, length_littleEndian, List.map_const', Vector.length_toList,
      List.sum_replicate_nat]
  exact hwords _

@[simp] theorem length_checksum (payload : Bytes) : (checksum payload).length = 16 := by
  rw [checksum, List.length_take, length_blake3]
  rfl

/-! ## 2. The header -/

/-- A field between the bytes before it and those behind it. -/
theorem slice_append {before field behind : Bytes} {start length : Nat}
    (hstart : before.length = start) (hlength : field.length = length) :
    slice (before ++ field ++ behind) start length = field := by
  rw [slice, List.append_assoc, List.drop_left' hstart, List.take_left' hlength]

theorem length_slice {blob : Bytes} {start length : Nat} (h : start + length ≤ blob.length) :
    (slice blob start length).length = length := by
  rw [slice, List.length_take, List.length_drop]
  omega

/-- A field depends on nothing outside it. -/
theorem slice_congr {a b : Bytes} {start length : Nat}
    (h : ∀ i, start ≤ i → i < start + length → a[i]? = b[i]?) :
    slice a start length = slice b start length := by
  refine List.ext_getElem? fun k => ?_
  rw [slice, slice, List.getElem?_take, List.getElem?_take, List.getElem?_drop, List.getElem?_drop]
  split
  · exact h (start + k) (Nat.le_add_right _ _) (by omega)
  · rfl

/-- A field before a cut is left by it. -/
theorem slice_take {blob : Bytes} {start length cut : Nat} (h : start + length ≤ cut) :
    slice (blob.take cut) start length = slice blob start length :=
  slice_congr fun _ _ hi => List.getElem?_take_of_lt (Nat.lt_of_lt_of_le hi h)

@[simp] theorem length_header (payload : Bytes) : (header payload).length = headerLength := by
  simp [header, magic, headerLength]

section Fields

variable (payload behind : Bytes)

theorem slice_header_magic : slice (header payload ++ behind) 0 4 = magic := rfl

theorem slice_header_version :
    slice (header payload ++ behind) 4 2 = littleEndian 2 formatVersion := rfl

theorem slice_header_length :
    slice (header payload ++ behind) 12 4 = littleEndian 4 payload.length := by
  rw [header, List.append_assoc]
  exact slice_append (by simp [magic]) (length_littleEndian 4 _)

theorem slice_header_checksum :
    slice (header payload ++ behind) 16 16 = checksum payload := by
  rw [header]
  exact slice_append (by simp [magic]) (length_checksum payload)

theorem slice_payload :
    slice (header payload ++ payload) headerLength payload.length = payload := by
  rw [slice, List.drop_left' (length_header payload), List.take_length]

end Fields

end Verdict.Blob
