import Verdict.Proofs.Consumer
import Verdict.Regex.Grammar

/-!
# Reading a pattern symbol by symbol

* `readFrom_nil`, `readFrom_of_step`: the end of a pattern, and a symbol that is read;
* `step_open`, `step_close`, `step_bar`, `step_brace`, `step_mark`, `step_piece`, `step_space`,
  `step_comment`: what each kind of symbol does; `forall_step` says that these are all;
* `pattern_combine_sequence`, `pattern_combine_alternation`, `levels_combine_le`: several pieces as
  one;
* `betweenEnds`: a piece as a group between the two ends of the text;
* **`readFrom_betweenEnds`**, `readFrom_end`: how that is read.
-/

namespace Verdict.Pattern

/-! ## 1. Symbols -/

theorem readFrom_nil (p : Progress) : readFrom p [] = p.finish? := by
  rw [readFrom]

theorem readFrom_cons (p : Progress) (c : Char) (s : List Char) :
    readFrom p (c :: s) = match (step p c).run s with
      | (.ok p', rest) => readFrom p' rest
      | (.error (), _) => none := by
  rw [readFrom]
  split <;> rename_i h <;> simp only [h]

theorem readFrom_of_step {p p' : Progress} {c : Char} {s rest : List Char}
    (h : (step p c).run s = (.ok p', rest)) : readFrom p (c :: s) = readFrom p' rest := by
  rw [readFrom_cons, h]

/-- The characters that are more than a piece by themselves or the start of one. -/
def marks : List Char := ['(', ')', '|', '\x7b', '*', '+', '?']

variable {p : Progress}

theorem step_space {c : Char} (h : p.inner.flags.verbose = true ∧ Text.isWhitespace c = true) :
    step p c = pure p := if_pos h

theorem step_comment (h : p.inner.flags.verbose = true) :
    step p '#' = (do
      let _ ← Scan.takeWhile (· != '\n')
      return p) := by
  have hspace : ¬ (p.inner.flags.verbose = true ∧ Text.isWhitespace '#' = true) :=
    fun h => absurd h.2 (by decide)
  exact (if_neg hspace).trans (if_pos ⟨h, rfl⟩)

theorem step_open :
    step p '(' = (do Scan.require (p.start? (← readOpening p.inner.flags))) := by
  have hspace : Text.isWhitespace '(' = false := by decide
  simp [step, hspace]

theorem step_close : step p ')' = Scan.require p.close? := by
  have hspace : Text.isWhitespace ')' = false := by decide
  simp [step, hspace]

theorem step_bar : step p '|' = pure (p.withInner p.inner.endBranch) := by
  have hspace : Text.isWhitespace '|' = false := by decide
  simp [step, hspace]

theorem step_brace : step p '\x7b' = (do
    Scan.require ((p.inner.repeatLast? (← readCount p.inner.flags.verbose)).map p.withInner)) := by
  have hspace : Text.isWhitespace '\x7b' = false := by decide
  simp [step, hspace]

theorem step_mark {c : Char} {r : Repetition} (h : markOf? c = some r) : step p c = (do
    Scan.require ((p.inner.repeatLast? (← readMark r)).map p.withInner)) := by
  have hspace : Text.isWhitespace '*' = false ∧ Text.isWhitespace '+' = false ∧
    Text.isWhitespace '?' = false := by decide
  unfold markOf? at h
  split at h <;> cases h <;> simp [step, markOf?, hspace]

theorem step_piece {c : Char} (hc : c ∉ marks)
    (hspace : ¬ (p.inner.flags.verbose = true ∧ Text.isWhitespace c = true))
    (hcomment : ¬ (p.inner.flags.verbose = true ∧ c = '#')) : step p c = (do
    return p.withInner (p.inner.add (← readPiece p.inner.flags c))) := by
  simp only [marks, List.mem_cons, List.not_mem_nil, or_false, not_or] at hc
  obtain ⟨hopen, hclose, hbar, hbrace, hstar, hplus, hquestion⟩ := hc
  have hmark : markOf? c = none := by simp [markOf?]
  simp [step, hspace, hcomment, hmark]

/-- What holds for every kind of symbol holds for every step. -/
theorem forall_step {motive : Char → Scan Progress → Prop}
    (space : ∀ c, p.inner.flags.verbose = true → Text.isWhitespace c = true → motive c (pure p))
    (comment : p.inner.flags.verbose = true → motive '#' do
      let _ ← Scan.takeWhile (· != '\n')
      return p)
    (opening : motive '(' do Scan.require (p.start? (← readOpening p.inner.flags)))
    (close : motive ')' (Scan.require p.close?))
    (bar : motive '|' (pure (p.withInner p.inner.endBranch)))
    (brace : motive '\x7b' do
      Scan.require ((p.inner.repeatLast? (← readCount p.inner.flags.verbose)).map p.withInner))
    (mark : ∀ c r, markOf? c = some r → motive c do
      Scan.require ((p.inner.repeatLast? (← readMark r)).map p.withInner))
    (piece : ∀ c, c ∉ marks → ¬ (p.inner.flags.verbose = true ∧ Text.isWhitespace c = true) →
      ¬ (p.inner.flags.verbose = true ∧ c = '#') → motive c do
        return p.withInner (p.inner.add (← readPiece p.inner.flags c)))
    (c : Char) : motive c (step p c) := by
  by_cases hmarks : c ∈ marks
  · simp only [marks, List.mem_cons, List.not_mem_nil, or_false] at hmarks
    rcases hmarks with rfl | rfl | rfl | rfl | rfl | rfl | rfl
    · exact step_open ▸ opening
    · exact step_close ▸ close
    · exact step_bar ▸ bar
    · exact step_brace ▸ brace
    · exact step_mark (c := '*') rfl ▸ mark '*' _ rfl
    · exact step_mark (c := '+') rfl ▸ mark '+' _ rfl
    · exact step_mark (c := '?') rfl ▸ mark '?' _ rfl
  · by_cases hspace : p.inner.flags.verbose = true ∧ Text.isWhitespace c = true
    · exact step_space hspace ▸ space c hspace.1 hspace.2
    · by_cases hcomment : p.inner.flags.verbose = true ∧ c = '#'
      · obtain ⟨hverbose, rfl⟩ := hcomment
        exact step_comment hverbose ▸ comment hverbose
      · exact step_piece hmarks hspace hcomment ▸ piece c hmarks hspace hcomment

/-! ## 2. Several pieces as one -/

theorem pattern_combine_sequence (pieces : List Piece) :
    (Piece.combine .sequence pieces).pattern = .sequence (pieces.map (·.pattern)) := by
  match pieces with
  | [] => rfl
  | [_] => rfl
  | _ :: _ :: _ => rfl

theorem pattern_combine_alternation (pieces : List Piece) :
    (Piece.combine .alternation pieces).pattern = .alternation (pieces.map (·.pattern)) := by
  match pieces with
  | [] => rfl
  | [_] => rfl
  | _ :: _ :: _ => rfl

/-- Several pieces have at most one level more than the deepest of them. -/
theorem levels_combine_le {join : List Regex → Regex} {pieces : List Piece} {n : Nat}
    (h : ∀ piece ∈ pieces, piece.levels ≤ n) : (Piece.combine join pieces).levels ≤ n + 1 := by
  have hmax : ∀ pieces : List Piece, (∀ piece ∈ pieces, piece.levels ≤ n) →
      (pieces.map (·.levels)).foldr max 0 ≤ n := by
    intro pieces h
    induction pieces with
    | nil => exact Nat.zero_le _
    | cons piece rest ih =>
      exact Nat.max_le.mpr ⟨h piece List.mem_cons_self,
        ih fun other hother => h other (List.mem_cons_of_mem _ hother)⟩
  match pieces, h with
  | [], _ => exact Nat.zero_le _
  | [piece], h => exact Nat.le_succ_of_le (h piece List.mem_cons_self)
  | first :: second :: rest, h =>
    have hlevels := hmax _ h
    show 1 + ((first :: second :: rest).map (·.levels)).foldr max 0 ≤ n + 1
    omega

/-! ## 3. Between the two ends -/

/-- A piece as a group between the two ends of the text. -/
def betweenEnds (flags : Flags) (piece : Piece) : Piece :=
  Piece.combine .sequence
    [.ofAssertion (startAssertion flags), piece.grouped, .ofAssertion (endAssertion flags)]

theorem pattern_betweenEnds {flags : Flags} (h : flags.multiLine = false) (piece : Piece) :
    (betweenEnds flags piece).pattern =
      .sequence [.assert .textStart, piece.pattern, .assert .textEnd] := by
  simp [betweenEnds, pattern_combine_sequence, Piece.ofAssertion, Piece.grouped, startAssertion,
    endAssertion, h]

theorem levels_betweenEnds (flags : Flags) (piece : Piece) :
    (betweenEnds flags piece).levels = piece.levels + 2 := by
  show 1 + max 0 (max (1 + piece.levels) (max 0 0)) = _
  omega

/-- The group around a pattern that must match the whole text. -/
def aroundLevel (flags : Flags) : Level :=
  { flags, pieces := [.ofAssertion (startAssertion flags)] }

/-- The symbols of an opening are no mode setting but a group without a name. -/
theorem run_readOpening_colon {flags : Flags} (h : flags.verbose = false) (s : List Char) :
    (readOpening flags).run ('?' :: ':' :: s) = (.ok (.group flags none), s) := by
  have hlook : (lookarounds.any fun l => l.toList.isPrefixOf ('?' :: ':' :: s)) = false := by
    simp [lookarounds, List.isPrefixOf]
  have hnamed :
      (Scan.takeAll "?P<".toList).run ('?' :: ':' :: s) = (.ok false, '?' :: ':' :: s) := by
    simp [Scan.takeAll]
  have hangle :
      (Scan.takeAll "?<".toList).run ('?' :: ':' :: s) = (.ok false, '?' :: ':' :: s) := by
    simp [Scan.takeAll]
  have hspace : (Scan.space flags.verbose).run ('?' :: ':' :: s) = (.ok (), '?' :: ':' :: s) := by
    rw [h]
    rfl
  have hmodes : (readModes flags).run (':' :: s) = (.ok (.group flags none), s) := rfl
  unfold readOpening
  rw [Consumer.run_bind_of_ok hspace, Consumer.run_bind_of_ok (Consumer.run_remaining _), hlook,
    if_neg Bool.false_ne_true, Consumer.run_bind_of_ok hnamed, if_neg Bool.false_ne_true,
    Consumer.run_bind_of_ok hangle, if_neg Bool.false_ne_true]
  exact hmodes

/-- **Between the two ends, a pattern is read as the content of a group.** -/
theorem readFrom_betweenEnds {flags : Flags} (h : flags.verbose = false) (s : List Char) :
    readFrom { inner := { flags } } ("^(?:".toList ++ s) =
      readFrom { inner := { flags }, outer := [aroundLevel flags] } s := by
  have hstart : (step { inner := { flags } } '^').run ("(?:".toList ++ s) =
      (.ok { inner := aroundLevel flags }, "(?:".toList ++ s) := by
    rw [step_piece (by decide) (fun h' => absurd h'.2 (by decide))
      (fun h' => absurd h'.2 (by decide))]
    rfl
  have hopen : (step { inner := aroundLevel flags } '(').run ('?' :: ':' :: s) =
      (.ok { inner := { flags }, outer := [aroundLevel flags] }, s) := by
    rw [step_open]
    exact Consumer.run_bind_of_ok (run_readOpening_colon h s) _
  exact (readFrom_of_step hstart).trans (readFrom_of_step hopen)

/-- Behind the group there is only the end of the text. -/
theorem readFrom_end (flags : Flags) (inner : Level) (names : List (List Char)) :
    readFrom { inner, outer := [aroundLevel flags], names } ")$".toList =
      some (betweenEnds flags inner.content) := by
  let closed : Level := (aroundLevel flags).add inner.content.grouped
  let ended : Level := closed.add (.ofAssertion (endAssertion flags))
  have hclose : (step { inner, outer := [aroundLevel flags], names } ')').run ['$'] =
      (.ok { inner := closed, names }, ['$']) := by
    rw [step_close]
    rfl
  have hend :
      (step { inner := closed, names } '$').run [] = (.ok { inner := ended, names }, []) := by
    rw [step_piece (by decide) (fun h' => absurd h'.2 (by decide))
      (fun h' => absurd h'.2 (by decide))]
    rfl
  show readFrom _ (')' :: '$' :: []) = _
  rw [readFrom_of_step hclose, readFrom_of_step hend, readFrom_nil]
  rfl

end Verdict.Pattern
