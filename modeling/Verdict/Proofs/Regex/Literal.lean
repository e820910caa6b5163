import Mathlib.Data.List.Basic
import Mathlib.Tactic.FinCases
import Verdict.Proofs.Regex.Matching
import Verdict.Proofs.Regex.Reading

/-!
# Patterns for literal texts

Here a pattern is a row of pieces, or several such rows with bars between them, as they come from
literal texts. Letters match in one case only, and spaces and comments count.

* `ReadAs`: a text that is read as certain pieces wherever it stands;
* `readAs_escape`: an escaped text is read as its characters;
* `Branches`: a text that is read as alternatives, each a row of pieces;
* **`exists_compile_of_branches`**, `exists_compile_betweenEnds`: such a text is a pattern, alone
  and between the two ends, and its expression spans what one of the rows does;
* `spans_literals`, `spans_anyText`: what characters and a dot with a star span.
-/

namespace Verdict.Pattern

/-! ## 1. Rows of pieces -/

/-- The text is read as these pieces, whatever was read before and unless a question mark follows,
    which would belong to the last piece. -/
structure ReadAs (flags : Flags) (s : List Char) (pieces : List Piece) : Prop where
  head : s.head? ≠ some '?'
  readFrom_eq : ∀ (p : Progress) (rest : List Char), p.inner.flags = flags →
    rest.head? ≠ some '?' → readFrom p (s ++ rest) =
      readFrom (p.withInner { p.inner with pieces := pieces.reverse ++ p.inner.pieces }) rest

namespace ReadAs

variable {flags : Flags} {s s' : List Char} {pieces pieces' : List Piece}

theorem nil : ReadAs flags [] [] := ⟨nofun, fun _ _ _ _ => rfl⟩

theorem head_append {rest : List Char} (h : ReadAs flags s pieces) (hrest : rest.head? ≠ some '?') :
    (s ++ rest).head? ≠ some '?' := by
  cases s with
  | nil => exact hrest
  | cons c s => exact h.head

theorem append (h : ReadAs flags s pieces) (h' : ReadAs flags s' pieces') :
    ReadAs flags (s ++ s') (pieces ++ pieces') := by
  refine ⟨h.head_append h'.head, fun p rest hflags hrest => ?_⟩
  let q := p.withInner { p.inner with pieces := pieces.reverse ++ p.inner.pieces }
  rw [List.append_assoc, h.readFrom_eq p _ hflags (h'.head_append hrest)]
  refine (h'.readFrom_eq q rest hflags hrest).trans ?_
  rw [List.reverse_append, List.append_assoc]
  rfl

/-- Characters in a row are read as their pieces in a row. -/
theorem flatMap {f : Char → List Char} {g : Char → Piece} (h : ∀ c, ReadAs flags (f c) [g c])
    (s : List Char) : ReadAs flags (s.flatMap f) (s.map g) := by
  induction s with
  | nil => exact nil
  | cons c rest ih => exact (h c).append ih

end ReadAs

/-- The piece of one character by itself. -/
def literal (c : Char) : Piece := .ofClass (.single c.toNat)

theorem ne_of_not_isMeta {c d : Char} (hc : isMeta c = false) (hd : isMeta d = true) : c ≠ d := by
  rintro rfl
  rw [hc] at hd
  cases hd

section Literal

variable {flags : Flags}

theorem atomPiece?_literal (hcase : flags.ignoreCase = false) (c : Char) :
    atomPiece? flags (.literal c false) = some (literal c) := by
  simp [atomPiece?, literalClass?, finishClass, hcase, literal]

/-- A character without a meaning stands for itself. -/
theorem readPiece_literal (hcase : flags.ignoreCase = false) {c : Char} (hc : isMeta c = false) :
    readPiece flags c = pure (literal c) := by
  have hne {d : Char} (hd : isMeta d = true) : c ≠ d := ne_of_not_isMeta hc hd
  unfold readPiece
  split
  · exact absurd rfl (hne (d := '[') rfl)
  · exact absurd rfl (hne (d := '\\') rfl)
  · exact absurd rfl (hne (d := '.') rfl)
  · exact absurd rfl (hne (d := '^') rfl)
  · exact absurd rfl (hne (d := '$') rfl)
  · rw [atomPiece?_literal hcase]
    rfl

/-- A backslash takes the meaning from a character. -/
theorem run_readEscape_meta {c : Char} (hc : isMeta c = true) (rest : List Char) :
    (readEscape flags).run (c :: rest) = (.ok (.literal c false), rest) := by
  have hescapable : isEscapable c = true := by simp [isEscapable, hc]
  -- None of the letters that stand for more behind a backslash has a meaning by itself.
  have hmem : c ∈ "\\.+*?()|[]\x7b\x7d^$#&-~".toList := List.contains_iff_mem.mp hc
  fin_cases hmem <;> rfl

theorem readAs_escapeChar (hcase : flags.ignoreCase = false) (hverbose : flags.verbose = false)
    (c : Char) : ReadAs flags (if isMeta c then ['\\', c] else [c]) [literal c] := by
  have hplain {p : Progress} (hflags : p.inner.flags = flags) {q : Prop} :
      ¬ (p.inner.flags.verbose = true ∧ q) := by
    rw [hflags, hverbose]
    exact fun h => Bool.false_ne_true h.1
  cases hc : isMeta c with
  | false =>
    have hne {d : Char} (hd : isMeta d = true) : c ≠ d := ne_of_not_isMeta hc hd
    have hmarks : c ∉ marks := by
      intro hmem
      have hall : marks.all isMeta = true := by decide
      rw [List.all_eq_true.mp hall c hmem] at hc
      cases hc
    refine ⟨fun h => hne (d := '?') rfl (Option.some.inj h), fun p rest hflags _ => ?_⟩
    refine readFrom_of_step ?_
    rw [step_piece hmarks (hplain hflags) (hplain hflags), hflags, readPiece_literal hcase hc]
    rfl
  | true =>
    refine ⟨nofun, fun p rest hflags _ => ?_⟩
    refine readFrom_of_step (c := '\\') ?_
    rw [step_piece (by decide) (hplain hflags) (hplain hflags), hflags]
    have hpiece : (readPiece flags '\\').run (c :: rest) = (.ok (literal c), rest) := by
      refine (Consumer.run_bind_of_ok (run_readEscape_meta hc rest) _).trans ?_
      rw [atomPiece?_literal hcase]
      rfl
    exact Consumer.run_bind_of_ok hpiece _

/-- **An escaped text is read as its characters.** -/
theorem readAs_escape (hcase : flags.ignoreCase = false) (hverbose : flags.verbose = false)
    (s : List Char) : ReadAs flags (escape s) (s.map literal) :=
  ReadAs.flatMap (readAs_escapeChar hcase hverbose) s

end Literal

/-! ## 2. Alternatives -/

/-- The text is read as these alternatives where a group or the pattern begins. -/
def Branches (flags : Flags) (s : List Char) (branches : List (List Piece)) : Prop :=
  ∀ (p : Progress) (rest : List Char), p.inner.flags = flags → p.inner.pieces = [] →
    rest.head? ≠ some '?' → ∃ level, readFrom p (s ++ rest) = readFrom (p.withInner level) rest ∧
      level.endBranch.branches =
        (branches.map (Piece.combine .sequence)).reverse ++ p.inner.branches

section Branches

variable {flags : Flags} {s s' : List Char} {pieces : List Piece} {branches : List (List Piece)}

theorem ReadAs.toBranches (h : ReadAs flags s pieces) : Branches flags s [pieces] := by
  intro p rest hflags hpieces hrest
  refine ⟨_, h.readFrom_eq p rest hflags hrest, ?_⟩
  simp [Level.endBranch, hpieces]

theorem ReadAs.bar (h : ReadAs flags s pieces) (h' : Branches flags s' branches) :
    Branches flags (s ++ '|' :: s') (pieces :: branches) := by
  intro p rest hflags hpieces hrest
  have hstep : ∀ q : Progress, readFrom q ('|' :: (s' ++ rest)) =
      readFrom (q.withInner q.inner.endBranch) (s' ++ rest) := by
    intro q
    refine readFrom_of_step ?_
    rw [step_bar]
    rfl
  let q := p.withInner { p.inner with pieces := pieces.reverse ++ p.inner.pieces }
  obtain ⟨level, hread, hlevel⟩ := h' (q.withInner q.inner.endBranch) rest hflags rfl hrest
  have hbar : ('|' :: (s' ++ rest)).head? ≠ some '?' := by
    simp only [List.head?_cons]
    decide
  rw [List.append_assoc, List.cons_append, h.readFrom_eq p _ hflags hbar, hstep]
  refine ⟨level, hread, hlevel.trans ?_⟩
  have hrow : q.inner.pieces.reverse = pieces := by
    show (pieces.reverse ++ p.inner.pieces).reverse = pieces
    rw [hpieces, List.append_nil, List.reverse_reverse]
  show _ ++ Piece.combine .sequence q.inner.pieces.reverse :: p.inner.branches = _
  rw [hrow, List.map_cons, List.reverse_cons, List.append_assoc]
  rfl

/-- Texts with bars between them are read as the alternatives of each. -/
theorem branches_intercalate {α : Type} {f : α → List Char} {g : α → List Piece}
    (h : ∀ a, ReadAs flags (f a) (g a)) {parts : List α} (hparts : parts ≠ []) :
    Branches flags (List.intercalate ['|'] (parts.map f)) (parts.map g) := by
  match parts with
  | [] => exact absurd rfl hparts
  | [a] => simpa [List.intercalate] using (h a).toBranches
  | a :: b :: rest =>
    have hothers := branches_intercalate h (List.cons_ne_nil b rest)
    have hbar := (h a).bar hothers
    simpa [List.intercalate] using hbar

/-- What was read where the alternatives end, as one piece. -/
theorem content_of_branches {level : Level}
    (h : level.endBranch.branches = (branches.map (Piece.combine .sequence)).reverse) :
    level.content = Piece.combine .alternation (branches.map (Piece.combine .sequence)) := by
  rw [Level.content, h, List.reverse_reverse]

theorem levels_branches_le (hlevels : ∀ branch ∈ branches, ∀ piece ∈ branch, piece.levels ≤ 1) :
    (Piece.combine .alternation (branches.map (Piece.combine .sequence))).levels ≤ 3 := by
  refine levels_combine_le fun piece hpiece => ?_
  obtain ⟨branch, hbranch, rfl⟩ := List.mem_map.mp hpiece
  exact levels_combine_le (hlevels branch hbranch)

/-- Alternatives span what one of them does. -/
theorem spans_branches (hbranches : branches ≠ []) {before part after : List Char} :
    (Piece.combine .alternation (branches.map (Piece.combine .sequence))).pattern.Spans
        before part after ↔
      ∃ branch ∈ branches, (Regex.sequence (branch.map (·.pattern))).Spans before part after := by
  have hpatterns : (branches.map (Piece.combine .sequence)).map (·.pattern) =
      branches.map fun branch => Regex.sequence (branch.map (·.pattern)) := by
    rw [List.map_map]
    exact List.map_congr_left fun branch _ => pattern_combine_sequence branch
  rw [pattern_combine_alternation, hpatterns, Regex.spans_alternation (by simpa using hbranches)]
  simp

variable (hverbose : flags.verbose = false) (hs : Branches flags s branches)
  (hbranches : branches ≠ []) (hlevels : ∀ branch ∈ branches, ∀ piece ∈ branch, piece.levels ≤ 1)

include hs hbranches hlevels

/-- **Alternatives are a pattern.** Their expression spans what one of them does. -/
theorem exists_compile_of_branches : ∃ r, Regex.compile? flags s = some r ∧
    ∀ before part after, r.Spans before part after ↔
      ∃ branch ∈ branches, (Regex.sequence (branch.map (·.pattern))).Spans before part after := by
  obtain ⟨level, hread, hlevel⟩ := hs { inner := { flags } } [] rfl rfl nofun
  rw [List.append_nil] at hlevel hread
  have hcontent := content_of_branches hlevel
  have hpiece : readFrom { inner := { flags } } s = some level.content := by
    rw [hread, readFrom_nil]
    rfl
  have hle := levels_branches_le hlevels
  refine ⟨level.content.pattern, ?_, fun before part after => ?_⟩
  · rw [← hcontent] at hle
    rw [Regex.compile?, hpiece]
    exact if_pos (Nat.le_trans hle (by decide))
  · rw [hcontent]
    exact spans_branches hbranches

include hverbose

/-- Between the two ends they are, too; then they span whole texts. -/
theorem exists_compile_betweenEnds :
    ∃ r, Regex.compile? flags ("^(?:".toList ++ s ++ ")$".toList) = some r ∧
      (flags.multiLine = false → ∀ before part after, r.Spans before part after ↔
        before = [] ∧ after = [] ∧
          ∃ branch ∈ branches, (Regex.sequence (branch.map (·.pattern))).Spans [] part []) := by
  obtain ⟨level, hread, hlevel⟩ :=
    hs { inner := { flags }, outer := [aroundLevel flags] } ")$".toList rfl rfl nofun
  rw [List.append_nil] at hlevel
  have hcontent := content_of_branches hlevel
  have hpiece : readFrom { inner := { flags } } ("^(?:".toList ++ s ++ ")$".toList) =
      some (betweenEnds flags level.content) := by
    rw [List.append_assoc, readFrom_betweenEnds hverbose, hread]
    exact readFrom_end flags level []
  have hle := levels_branches_le hlevels
  rw [← hcontent] at hle
  refine ⟨(betweenEnds flags level.content).pattern, ?_, fun hmulti before part after => ?_⟩
  · rw [Regex.compile?, hpiece]
    refine if_pos ?_
    rw [levels_betweenEnds]
    exact Nat.le_trans (Nat.add_le_add_right hle 2) (by decide)
  · rw [pattern_betweenEnds hmulti, Regex.spans_between_ends, hcontent, spans_branches hbranches]

end Branches

end Verdict.Pattern

namespace Verdict.Regex

open Unicode (CharClass)

/-! ## 3. What they span -/

variable {before part after : List Char}

/-- A character by itself spans itself. -/
theorem spans_literal {c : Char} :
    (Pattern.literal c).pattern.Spans before part after ↔ part = [c] := by
  constructor
  · rintro ⟨x, rfl, hx⟩
    rw [CharClass.contains_single, decide_eq_true_eq] at hx
    rw [Char.toNat_inj.mp hx]
  · rintro rfl
    refine ⟨c, rfl, ?_⟩
    rw [CharClass.contains_single, decide_eq_true rfl]

/-- Characters in a row span themselves. -/
theorem spans_literals {s : List Char} :
    (sequence ((s.map Pattern.literal).map (·.pattern))).Spans before part after ↔ part = s := by
  induction s generalizing before part with
  | nil => exact Iff.rfl
  | cons c rest ih =>
    rw [List.map_cons, List.map_cons, spans_sequence_cons]
    constructor
    · rintro ⟨p, q, rfl, hp, hq⟩
      rw [spans_literal.mp hp, ih.mp hq]
      rfl
    · rintro rfl
      exact ⟨[c], rest, rfl, spans_literal.mpr rfl, ih.mpr rfl⟩

/-- A dot spans every character. -/
theorem spans_anyChar : (one .all).Spans before part after ↔ ∃ x, part = [x] := by
  have hall : ∀ x : Char, CharClass.all.contains x.toNat = true := by
    intro x
    have hrange := CharClass.contains_range 0 0x10FFFF x.toNat
    have hle : x.toNat ≤ 0x10FFFF := by
      have := x.valid
      simp only [UInt32.isValidChar, Nat.isValidChar] at this
      show x.val.toNat ≤ _
      omega
    exact hrange.trans (decide_eq_true ⟨Nat.zero_le _, hle⟩)
  simp only [Spans, hall, and_true]

/-- Repeated, it spans every text. -/
theorem spans_anyText : (iterate (one .all) 0 none).Spans before part after := by
  have htimes : ∀ (part before after : List Char),
      (one .all).Spans.times part.length before part after := by
    intro part
    induction part with
    | nil => exact fun _ _ => rfl
    | cons x rest ih =>
      exact fun before after => ⟨[x], rest, rfl, spans_anyChar.mpr ⟨x, rfl⟩, ih _ _⟩
  exact ⟨part.length, Nat.zero_le _, nofun, htimes part before after⟩

end Verdict.Regex
