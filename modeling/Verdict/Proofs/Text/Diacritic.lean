import Mathlib.Data.List.DropRight
import Verdict.Text.Blank
import Verdict.Text.Diacritic

/-!
# Trimming and stripping

Trimming drops the whitespace at the ends of a text, stripping drops its marks wherever they are.
Stripping leaves whitespace as whitespace and makes none of anything else. So the two part in one
case only: a text that begins or ends with marks can have whitespace next to them, where trimming
does not reach it and stripping lays it bare.

* `isWhitespace_of_mem_stripChars`, `stripChars_ne_nil_of_isWhitespace`: what is left of one
  character;
* `trimChars_eq_self_iff`, `exists_blank_around_trimChars`: what trimming leaves and what it drops;
* `HidesBlank`: texts with whitespace before which, or behind which, nothing is left;
* **`trimChars_stripChars_eq_self_iff`**: a stripped text has whitespace at an end exactly if the
  text hid some;
* `trimChars_stripChars_trimChars`: where a text is trimmed last, trimming it first makes no
  difference.
-/

namespace Verdict

/-! ## 1. Decompositions -/

namespace Unicode

open Text (isWhitespace)

/-- What is looked up in a table is in it. -/
theorem mem_of_lookupSorted {α : Type} {n : Nat} {table : List (Nat × α)} {entry : α}
    (h : lookupSorted n table = some entry) : (n, entry) ∈ table := by
  induction table with
  | nil => cases h
  | cons first rest ih =>
    obtain ⟨key, value⟩ := first
    unfold lookupSorted at h
    split at h
    · cases h
    · split at h
      · rename_i hkey
        cases h
        exact hkey ▸ List.mem_cons_self
      · exact List.mem_cons_of_mem _ (ih h)

/-- No entry of the table splits whitespace into anything else, or anything else into whitespace. -/
theorem isWhitespace_decompositionSteps : decompositionSteps.all (fun (n, a, b) =>
    isWhitespace (Char.ofNat a) == isWhitespace (Char.ofNat n) &&
      (b == 0 || isWhitespace (Char.ofNat b) == isWhitespace (Char.ofNat n))) = true := by
  decide +kernel

theorem isWhitespace_of_lookupSorted {n a b : Nat}
    (h : lookupSorted n decompositionSteps = some (a, b)) :
    isWhitespace (Char.ofNat a) = isWhitespace (Char.ofNat n) ∧
      (b ≠ 0 → isWhitespace (Char.ofNat b) = isWhitespace (Char.ofNat n)) := by
  have hrow := List.all_eq_true.mp isWhitespace_decompositionSteps _ (mem_of_lookupSorted h)
  simp only [Bool.and_eq_true, Bool.or_eq_true, beq_iff_eq] at hrow
  exact ⟨hrow.1, hrow.2.resolve_left⟩

theorem isWhitespace_of_mem_decomposeSteps {fuel n x : Nat} (h : x ∈ decomposeSteps fuel n) :
    isWhitespace (Char.ofNat x) = isWhitespace (Char.ofNat n) := by
  induction fuel generalizing n with
  | zero => rw [List.mem_singleton.mp h]
  | succ fuel ih =>
    unfold decomposeSteps at h
    split at h
    · rw [List.mem_singleton.mp h]
    · rename_i a hentry
      rw [ih h, (isWhitespace_of_lookupSorted hentry).1]
    · rename_i a b hb hentry
      have hparts := isWhitespace_of_lookupSorted hentry
      rcases List.mem_append.mp h with hfirst | hsecond
      · rw [ih hfirst, hparts.1]
      · rw [List.mem_singleton.mp hsecond, hparts.2 fun hzero => hb hzero]

/-- The parts of a Hangul syllable lie in one block of letters. -/
theorem exists_of_mem_decomposeHangul {n x : Nat} (hn : n ≤ 0xD7A3) (h : x ∈ decomposeHangul n) :
    ∃ letter ∈ List.range 0x100, x = 0x1100 + letter := by
  refine ⟨x - 0x1100, ?_⟩
  rw [List.mem_range]
  simp only [decomposeHangul] at h
  split at h <;> simp only [List.mem_cons, List.not_mem_nil, or_false] at h <;> omega

theorem decomposeSteps_ne_nil (fuel n : Nat) : decomposeSteps fuel n ≠ [] := by
  induction fuel generalizing n with
  | zero => exact List.cons_ne_nil _ _
  | succ fuel ih =>
    unfold decomposeSteps
    split
    · exact List.cons_ne_nil _ _
    · exact ih _
    · exact List.append_ne_nil_of_left_ne_nil (ih _) _

end Unicode

namespace Text

open Unicode

/-! ## 2. One character -/

/-- A character is decomposed into whitespace if it is whitespace, and into none if it is not. -/
theorem isWhitespace_of_mem_decomposeChar {c x : Char} (h : x ∈ decomposeChar c) :
    isWhitespace x = isWhitespace c := by
  obtain ⟨n, hn, rfl⟩ := List.mem_map.mp h
  unfold decompose at hn
  split at hn
  · rename_i hsyllable
    simp only [Bool.and_eq_true, decide_eq_true_eq] at hsyllable
    have hc : isWhitespace c = false := by
      simp only [isWhitespace, Bool.or_eq_false_iff, Bool.and_eq_false_iff,
        decide_eq_false_iff_not, beq_eq_false_iff_ne]
      omega
    have hblock : ∀ letter ∈ List.range 0x100,
        isWhitespace (Char.ofNat (0x1100 + letter)) = false := by
      decide +kernel
    obtain ⟨letter, hletter, rfl⟩ := exists_of_mem_decomposeHangul hsyllable.2 hn
    rw [hc, hblock letter hletter]
  · have hsteps := isWhitespace_of_mem_decomposeSteps hn
    rwa [Char.ofNat_toNat] at hsteps

theorem decomposeChar_ne_nil (c : Char) : decomposeChar c ≠ [] := by
  have hpoints : decompose c.toNat ≠ [] := by
    unfold decompose decomposeHangul
    split
    · dsimp only
      split <;> exact List.cons_ne_nil _ _
    · exact decomposeSteps_ne_nil _ _
  exact fun h => hpoints (List.map_eq_nil_iff.mp h)

/-- The code points of the characters that are whitespace. -/
def whitespacePoints : List Nat :=
  [0x09, 0x0A, 0x0B, 0x0C, 0x0D, 0x20, 0x85, 0xA0, 0x1680, 0x2000, 0x2001, 0x2002, 0x2003, 0x2004,
    0x2005, 0x2006, 0x2007, 0x2008, 0x2009, 0x200A, 0x2028, 0x2029, 0x202F, 0x205F, 0x3000]

theorem mem_whitespacePoints {c : Char} (h : isWhitespace c = true) :
    c.toNat ∈ whitespacePoints := by
  simp only [isWhitespace, Bool.or_eq_true, Bool.and_eq_true, decide_eq_true_eq, beq_iff_eq] at h
  simp only [whitespacePoints, List.mem_cons, List.not_mem_nil, or_false]
  omega

/-- No whitespace is a mark. -/
theorem isMark_of_isWhitespace {c : Char} (h : isWhitespace c = true) : isMark c = false := by
  have hpoints : ∀ n ∈ whitespacePoints, isMark (Char.ofNat n) = false := by decide +kernel
  have hmark := hpoints c.toNat (mem_whitespacePoints h)
  rwa [Char.ofNat_toNat] at hmark

/-- What is left of a character is whitespace if the character is, and not if it is not. -/
theorem isWhitespace_of_mem_stripChars {c x : Char} (h : x ∈ stripChars [c]) :
    isWhitespace x = isWhitespace c := by
  simp only [stripChars, List.flatMap_singleton, List.mem_filter] at h
  exact isWhitespace_of_mem_decomposeChar h.1

/-- Whitespace does not vanish. -/
theorem stripChars_ne_nil_of_isWhitespace {c : Char} (h : isWhitespace c = true) :
    stripChars [c] ≠ [] := by
  obtain ⟨x, hx⟩ := List.exists_mem_of_ne_nil _ (decomposeChar_ne_nil c)
  have hspace : isWhitespace x = true := (isWhitespace_of_mem_decomposeChar hx).trans h
  have hleft : x ∈ stripChars [c] := by
    simp only [stripChars, List.flatMap_singleton, List.mem_filter]
    exact ⟨hx, by rw [isMark_of_isWhitespace hspace]; rfl⟩
  exact List.ne_nil_of_mem hleft

/-! ## 3. Texts -/

@[simp] theorem stripChars_append (s t : List Char) :
    stripChars (s ++ t) = stripChars s ++ stripChars t := by
  simp only [stripChars, List.flatMap_append, List.filter_append]

theorem stripChars_eq_flatMap (s : List Char) :
    stripChars s = s.flatMap fun c => stripChars [c] := by
  induction s with
  | nil => rfl
  | cons c s ih => rw [List.flatMap_cons, ← ih, ← stripChars_append, List.singleton_append]

/-- A text of whitespace is stripped to whitespace. -/
theorem isWhitespace_stripChars {s : List Char} (h : ∀ c ∈ s, isWhitespace c = true) :
    ∀ x ∈ stripChars s, isWhitespace x = true := by
  intro x hx
  rw [stripChars_eq_flatMap] at hx
  obtain ⟨c, hc, hx⟩ := List.mem_flatMap.mp hx
  rw [isWhitespace_of_mem_stripChars hx, h c hc]

/-- Leaving out the characters that vanish changes nothing. -/
theorem stripChars_filter (s : List Char) :
    stripChars (s.filter fun c => stripChars [c] ≠ []) = stripChars s := by
  induction s with
  | nil => rfl
  | cons c s ih =>
    have hcons : stripChars (c :: s) = stripChars [c] ++ stripChars s := stripChars_append [c] s
    by_cases h : stripChars [c] = []
    · rw [List.filter_cons_of_neg (by simp [h]), ih, hcons, h, List.nil_append]
    · rw [List.filter_cons_of_pos (by simp [h]), hcons, ← ih]
      exact stripChars_append [c] _

/-! ## 4. Trimming -/

/-- Whether a text begins with whitespace. -/
def opensBlank (s : List Char) : Bool := s.head?.any isWhitespace

theorem dropWhile_eq_self_iff {s : List Char} :
    s.dropWhile isWhitespace = s ↔ opensBlank s = false := by
  rw [List.dropWhile_eq_self_iff]
  cases s <;> simp [opensBlank]

/-- A text without whitespace at its two ends is trimmed, and no other is. -/
theorem trimChars_eq_self_iff {s : List Char} :
    trimChars s = s ↔ opensBlank s = false ∧ opensBlank s.reverse = false := by
  rw [← dropWhile_eq_self_iff, ← dropWhile_eq_self_iff]
  constructor
  · intro h
    -- The end is trimmed last, so it is seen at once; the start then by length alone.
    have hlast : s.reverse = ((s.dropWhile isWhitespace).reverse).dropWhile isWhitespace := by
      rw [← List.reverse_reverse (List.dropWhile _ _)]
      exact congrArg List.reverse h.symm
    have hend : s.reverse.dropWhile isWhitespace = s.reverse := by
      rw [hlast, List.dropWhile_idempotent]
    refine ⟨?_, hend⟩
    have hsuffix : s.dropWhile isWhitespace <:+ s := List.dropWhile_suffix _
    have hlength : s.length ≤ (s.dropWhile isWhitespace).length := by
      have hshort := (List.dropWhile_suffix (l := (s.dropWhile isWhitespace).reverse)
        isWhitespace).length_le
      rwa [← hlast, List.length_reverse, List.length_reverse] at hshort
    exact hsuffix.eq_of_length_le hlength
  · rintro ⟨hstart, hend⟩
    rw [trimChars, hstart, hend, List.reverse_reverse]

/-- Whitespace around a text is trimmed. -/
theorem trimChars_append {left s right : List Char} (hleft : ∀ c ∈ left, isWhitespace c = true)
    (hright : ∀ c ∈ right, isWhitespace c = true) :
    trimChars (left ++ s ++ right) = trimChars s := by
  rw [trimChars, List.append_assoc, List.dropWhile_append_of_pos hleft, List.dropWhile_append]
  split
  · rename_i hblank
    have hs : s.dropWhile isWhitespace = [] := List.isEmpty_iff.mp hblank
    rw [List.dropWhile_eq_nil_iff.mpr hright, trimChars, hs]
  · rw [List.reverse_append, List.dropWhile_append_of_pos
      (fun c hc => hright c (List.mem_reverse.mp hc)), trimChars]

/-- Trimming drops whitespace. -/
theorem exists_blank_around_trimChars (s : List Char) :
    ∃ left right, s = left ++ trimChars s ++ right ∧ (∀ c ∈ left, isWhitespace c = true) ∧
      ∀ c ∈ right, isWhitespace c = true := by
  have hstart := List.takeWhile_append_dropWhile (p := isWhitespace) (l := s)
  have hend := List.takeWhile_append_dropWhile (p := isWhitespace)
    (l := (s.dropWhile isWhitespace).reverse)
  refine ⟨s.takeWhile isWhitespace,
    ((s.dropWhile isWhitespace).reverse.takeWhile isWhitespace).reverse, ?_,
    fun c => List.mem_takeWhile_imp, fun c hc => List.mem_takeWhile_imp (List.mem_reverse.mp hc)⟩
  rw [List.append_assoc, trimChars, ← List.reverse_append, hend, List.reverse_reverse, hstart]

theorem mem_of_mem_trimChars {s : List Char} {c : Char} (h : c ∈ trimChars s) : c ∈ s := by
  obtain ⟨left, right, hs, -, -⟩ := exists_blank_around_trimChars s
  rw [hs]
  exact List.mem_append_left _ (List.mem_append_right _ h)

theorem trimChars_trimChars (s : List Char) : trimChars (trimChars s) = trimChars s := by
  obtain ⟨left, right, hs, hleft, hright⟩ := exists_blank_around_trimChars s
  have h := trimChars_append (s := trimChars s) hleft hright
  rwa [← hs, eq_comm] at h

/-! ## 5. Hidden whitespace -/

/-- Texts with whitespace before which, or behind which, nothing is left when they are stripped. -/
def HidesBlank (s : List Char) : Prop :=
  ∃ before w after, s = before ++ w :: after ∧ isWhitespace w = true ∧
    (stripChars before = [] ∨ stripChars after = [])

/-- The whitespace before which nothing is left is the first character, or it stands behind one that
    vanishes. -/
theorem exists_blank_cons_iff {left : Char → List Char} {c : Char} {s : List Char} :
    (∃ before w after, c :: s = before ++ w :: after ∧ isWhitespace w = true ∧
      before.flatMap left = []) ↔
    isWhitespace c = true ∨ left c = [] ∧ ∃ before w after, s = before ++ w :: after ∧
      isWhitespace w = true ∧ before.flatMap left = [] := by
  constructor
  · rintro ⟨before, w, after, hs, hw, hbefore⟩
    cases before with
    | nil =>
      cases hs
      exact .inl hw
    | cons d before =>
      cases hs
      obtain ⟨hd, hbefore⟩ := List.append_eq_nil_iff.mp hbefore
      exact .inr ⟨hd, before, w, after, rfl, hw, hbefore⟩
  · rintro (hc | ⟨hc, before, w, after, rfl, hw, hbefore⟩)
    · exact ⟨[], c, s, rfl, hc, rfl⟩
    · exact ⟨c :: before, w, after, rfl, hw, List.append_eq_nil_iff.mpr ⟨hc, hbefore⟩⟩

/-- What is left of the characters of a text begins with whitespace exactly if there is whitespace
    in the text before which nothing is left. -/
theorem opensBlank_flatMap {left : Char → List Char}
    (hspace : ∀ c, ∀ x ∈ left c, isWhitespace x = isWhitespace c)
    (hkept : ∀ c, isWhitespace c = true → left c ≠ []) {s : List Char} :
    opensBlank (s.flatMap left) = true ↔ ∃ before w after,
      s = before ++ w :: after ∧ isWhitespace w = true ∧ before.flatMap left = [] := by
  induction s with
  | nil => simp [opensBlank]
  | cons c s ih =>
    rw [List.flatMap_cons, exists_blank_cons_iff, ← ih]
    cases hc : left c with
    | nil =>
      have hblank : ¬isWhitespace c = true := fun h => hkept c h hc
      rw [List.nil_append, or_iff_right hblank, and_iff_right rfl]
    | cons x rest =>
      have hx : isWhitespace x = isWhitespace c := hspace c x (by rw [hc]; exact List.mem_cons_self)
      show isWhitespace x = true ↔ _
      simp only [hx, reduceCtorEq, false_and, or_false]

theorem opensBlank_stripChars {s : List Char} :
    opensBlank (stripChars s) = true ↔ ∃ before w after,
      s = before ++ w :: after ∧ isWhitespace w = true ∧ stripChars before = [] := by
  have h : opensBlank (s.flatMap fun c => stripChars [c]) = true ↔ _ :=
    opensBlank_flatMap (fun _ _ => isWhitespace_of_mem_stripChars)
      (fun _ => stripChars_ne_nil_of_isWhitespace)
  simpa only [← stripChars_eq_flatMap] using h

theorem reverse_stripChars (s : List Char) :
    (stripChars s).reverse = s.reverse.flatMap fun c => (stripChars [c]).reverse := by
  rw [stripChars_eq_flatMap, List.reverse_flatMap]
  rfl

theorem opensBlank_reverse_stripChars {s : List Char} :
    opensBlank (stripChars s).reverse = true ↔ ∃ before w after,
      s = before ++ w :: after ∧ isWhitespace w = true ∧ stripChars after = [] := by
  rw [reverse_stripChars, opensBlank_flatMap
    (fun c x hx => isWhitespace_of_mem_stripChars (List.mem_reverse.mp hx))
    (fun c hc h => stripChars_ne_nil_of_isWhitespace hc (List.reverse_eq_nil_iff.mp h))]
  have hleft : ∀ t : List Char, t.reverse.flatMap (fun c => (stripChars [c]).reverse) = [] ↔
      stripChars t = [] := by
    intro t
    rw [← reverse_stripChars, List.reverse_eq_nil_iff]
  constructor
  · rintro ⟨before, w, after, hs, hw, hbefore⟩
    refine ⟨after.reverse, w, before.reverse, ?_, hw, (hleft _).mp ?_⟩
    · rw [← List.reverse_reverse s, hs]
      simp
    · rwa [List.reverse_reverse]
  · rintro ⟨before, w, after, rfl, hw, hafter⟩
    exact ⟨after.reverse, w, before.reverse, by simp, hw, (hleft after).mpr hafter⟩

/-- **A stripped text has whitespace at an end exactly if the text hid some.** -/
theorem trimChars_stripChars_eq_self_iff {s : List Char} :
    trimChars (stripChars s) = stripChars s ↔ ¬HidesBlank s := by
  rw [trimChars_eq_self_iff, ← Bool.not_eq_true, ← Bool.not_eq_true, ← not_or,
    opensBlank_stripChars, opensBlank_reverse_stripChars]
  refine not_congr ⟨?_, ?_⟩
  · rintro (⟨before, w, after, hs, hw, h⟩ | ⟨before, w, after, hs, hw, h⟩)
    · exact ⟨before, w, after, hs, hw, .inl h⟩
    · exact ⟨before, w, after, hs, hw, .inr h⟩
  · rintro ⟨before, w, after, hs, hw, h | h⟩
    · exact .inl ⟨before, w, after, hs, hw, h⟩
    · exact .inr ⟨before, w, after, hs, hw, h⟩

/-- **Where a text is trimmed last, trimming it first makes no difference.** -/
theorem trimChars_stripChars_trimChars (s : List Char) :
    trimChars (stripChars (trimChars s)) = trimChars (stripChars s) := by
  obtain ⟨left, right, hs, hleft, hright⟩ := exists_blank_around_trimChars s
  have hstrip : stripChars s = stripChars left ++ stripChars (trimChars s) ++ stripChars right := by
    rw [← stripChars_append, ← stripChars_append, ← hs]
  rw [hstrip, trimChars_append (isWhitespace_stripChars hleft) (isWhitespace_stripChars hright)]

/-- A trimmed text hides no whitespace if none of its characters vanishes. -/
theorem not_hidesBlank_of_kept {s : List Char} (htrim : trimChars s = s)
    (hkept : ∀ c ∈ s, stripChars [c] ≠ []) : ¬HidesBlank s := by
  have hnil : ∀ t : List Char, (∀ c ∈ t, c ∈ s) → stripChars t = [] → t = [] := by
    intro t ht hleft
    cases t with
    | nil => rfl
    | cons c t =>
      rw [← List.singleton_append, stripChars_append, List.append_eq_nil_iff] at hleft
      exact absurd hleft.1 (hkept c (ht c List.mem_cons_self))
  obtain ⟨hstart, hend⟩ := trimChars_eq_self_iff.mp htrim
  rintro ⟨before, w, after, rfl, hw, h | h⟩
  · have hbefore := hnil before (fun c hc => List.mem_append_left _ hc) h
    subst hbefore
    exact absurd hw (by rw [show isWhitespace w = false from hstart]; decide)
  · have hafter := hnil after
      (fun c hc => List.mem_append_right _ (List.mem_cons_of_mem _ hc)) h
    subst hafter
    rw [List.reverse_append] at hend
    exact absurd hw (by rw [show isWhitespace w = false from hend]; decide)

end Text

end Verdict
