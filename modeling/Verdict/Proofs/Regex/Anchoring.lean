import Verdict.Proofs.Regex.Reading
import Verdict.Proofs.Regex.Steady

/-!
# Patterns between the two ends

A pattern that must match the whole text is put, as text, into a group between the two ends. Here
its reading there is compared with its reading alone.

* `Progress.inside`, `step_inside`: reading inside of one more group;
* `Overcloses`: the pattern closes a group that it has not opened -- alone it is refused then, but
  inside of one more group that parenthesis closes the group;
* `tallies_step`, `readFrom_astray`: the two readings tally step by step, and one that has gone
  astray into the closing is refused in the end;
* **`readFrom_append_closing`**, `readFrom_anchored`: a pattern that does not overclose is read
  alike between the two ends, or it is refused there;
* `readFrom_anchored_of_readFrom`: what this is for a pattern that is sound alone.
-/

namespace Verdict.Pattern

variable {p : Progress} {level : Level}

/-! ## 1. One more group -/

/-- The same progress, but inside of one more group. -/
def Progress.inside (p : Progress) (level : Level) : Progress :=
  { p with outer := p.outer ++ [level] }

/-- A pattern closes a group that it has not opened. -/
inductive Overcloses : Progress → List Char → Prop
  | here {p : Progress} {s : List Char} (unopened : p.outer = []) : Overcloses p (')' :: s)
  | later {p p' : Progress} {c : Char} {s rest : List Char}
      (stepped : (step p c).run s = (.ok p', rest)) (later : Overcloses p' rest) :
      Overcloses p (c :: s)

/-- By itself, such a pattern is refused. -/
theorem readFrom_of_overcloses {s : List Char} (h : Overcloses p s) : readFrom p s = none := by
  induction h with
  | @here p s unopened =>
    have hclose : p.close? = none := by rw [Progress.close?, unopened]
    rw [readFrom_cons, step_close, hclose]
    rfl
  | later stepped _ ih => rw [readFrom_of_step stepped, ih]

theorem not_overcloses_of_readFrom {s : List Char} {piece : Piece} (h : readFrom p s = some piece) :
    ¬ Overcloses p s := fun hover => nomatch (readFrom_of_overcloses hover).symm.trans h

theorem not_overcloses_nil : ¬ Overcloses p [] := nofun

/-- What such a pattern starts with closes an open group, if it closes one. -/
theorem closes_open_of_not_overcloses {c : Char} {s : List Char} (h : ¬ Overcloses p (c :: s)) :
    c ≠ ')' ∨ p.outer ≠ [] := by
  by_contra hnot
  rw [not_or, not_not, not_not] at hnot
  obtain ⟨rfl, houter⟩ := hnot
  exact h (.here houter)

/-- A symbol that does not overclose by itself is passed. -/
theorem overcloses_cons {p' : Progress} {c : Char} {s rest : List Char}
    (hclose : c ≠ ')' ∨ p.outer ≠ []) (h : (step p c).run s = (.ok p', rest)) :
    Overcloses p (c :: s) ↔ Overcloses p' rest := by
  constructor
  · intro hover
    cases hover with
    | here unopened => exact (hclose.elim (fun hc => hc rfl) fun houter => houter unopened).elim
    | later stepped later =>
      cases stepped.symm.trans h
      exact later
  · exact .later h

theorem start?_inside (opening : Opening) :
    (p.inside level).start? opening = (p.start? opening).map (·.inside level) := by
  cases opening with
  | modes flags => rfl
  | group flags name =>
    show (if name.any p.names.contains then none else some _) = _
    rw [Progress.start?]
    split <;> rfl

theorem close?_inside (h : p.outer ≠ []) :
    (p.inside level).close? = p.close?.map (·.inside level) := by
  obtain ⟨next, outer, houter⟩ := List.exists_cons_of_ne_nil h
  simp [Progress.close?, Progress.inside, houter]

theorem bind_require_map {α β γ : Type} (x : Scan α) (f : α → Option β) (g : β → γ) :
    (do Scan.require ((f (← x)).map g)) =
      (do Scan.require (f (← x))) >>= fun b => (pure (g b) : Scan γ) := by
  refine Consumer.ext_run fun s => ?_
  rw [Consumer.run_bind, Consumer.run_bind, Consumer.run_bind]
  rcases x.run s with ⟨_ | a, rest⟩
  · rfl
  · dsimp only
    cases f a <;> rfl

theorem bind_pure_map {α β γ : Type} (x : Scan α) (f : α → β) (g : β → γ) :
    (do return g (f (← x))) = (do return f (← x)) >>= fun b => (pure (g b) : Scan γ) := by
  refine Consumer.ext_run fun s => ?_
  rw [Consumer.run_bind, Consumer.run_bind, Consumer.run_bind]
  rcases x.run s with ⟨_ | a, rest⟩ <;> rfl

/-- **Inside of one more group, a symbol does the same**, unless it closes a group that has not been
    opened. -/
theorem step_inside {c : Char} (h : c ≠ ')' ∨ p.outer ≠ []) :
    step (p.inside level) c = step p c >>= fun p' => pure (p'.inside level) := by
  revert h
  refine forall_step (motive := fun c x => (c ≠ ')' ∨ p.outer ≠ []) →
    step (p.inside level) c = x >>= fun p' => pure (p'.inside level)) ?space ?comment ?opening
    ?close ?bar ?brace ?mark ?piece c
  case space => exact fun c hverbose hc _ => step_space ⟨hverbose, hc⟩
  case comment => exact fun hverbose _ => step_comment hverbose
  case opening =>
    intro _
    rw [step_open, funext start?_inside]
    exact bind_require_map _ _ _
  case close =>
    intro h
    have hopen : p.outer ≠ [] := h.resolve_left (fun h => h rfl)
    rw [step_close, close?_inside hopen]
    cases p.close? <;> rfl
  case bar => exact fun _ => step_bar
  case brace =>
    intro _
    rw [step_brace, ← bind_require_map]
    simp only [Option.map_map]
    rfl
  case mark =>
    intro c r hr _
    rw [step_mark hr, ← bind_require_map]
    simp only [Option.map_map]
    rfl
  case piece =>
    intro c hmarks hspace hcomment _
    rw [step_piece (p := p.inside level) hmarks hspace hcomment]
    exact bind_pure_map (readPiece p.inner.flags c) (fun piece => p.withInner (p.inner.add piece))
      (·.inside level)

/-! ## 2. The two readings -/

/-- **Step by step, the two readings tally.** -/
theorem tallies_step (p : Progress) (c : Char) (s : List Char) :
    Tallies (fun p' => Astray p'.inner.flags.verbose) (c :: s) ((step p c).run s)
      ((step p c).run (s ++ closing)) := by
  have hsteady {x : Scan Progress} (hx : Steady (fun p' => Astray p'.inner.flags.verbose) x)
      (c : Char) : Tallies (fun p' => Astray p'.inner.flags.verbose) (c :: s) (x.run s)
        (x.run (s ++ closing)) := (hx s).of_suffix (List.suffix_cons c s)
  refine forall_step (motive := fun c x => Tallies _ (c :: s) (x.run s) (x.run (s ++ closing)))
    ?space ?comment ?opening ?close ?bar ?brace ?mark ?piece c
  case space => exact fun c _ _ => hsteady (steady_pure p).of_never c
  case comment =>
    intro _
    show Tallies _ _ (.ok p, s.dropWhile (· != '\n')) (.ok p, (s ++ closing).dropWhile (· != '\n'))
    by_cases hs : '\n' ∈ s
    · obtain ⟨comment, rest, rfl, hcomment⟩ := List.eq_append_cons_of_mem hs
      rw [List.append_assoc, List.cons_append, (takeWhile_until hcomment rest).2,
        (takeWhile_until hcomment _).2]
      exact .same ((List.suffix_append comment _).trans (List.suffix_cons '#' _))
    · have hclosing : '\n' ∉ s ++ closing := not_mem_append_closing hs (by decide)
      rw [(takeWhile_all hs).2, (takeWhile_all hclosing).2]
      exact .swallowed ⟨[], s, rfl, hs⟩
  case opening =>
    refine hsteady ((steady_readOpening _).bind (fun _ => (steady_require _).of_never) ?_) '('
    exact fun _ _ _ _ hrest hrun => .inl (Nat.le_trans (length_le_of_run hrun) hrest)
  case close => exact hsteady (steady_require _).of_never ')'
  case bar => exact hsteady (steady_pure _).of_never '|'
  case brace =>
    exact hsteady ((steady_readCount _).bind_of_never fun _ => (steady_require _).of_never) '\x7b'
  case mark =>
    exact fun c r _ =>
      hsteady ((steady_readMark r).bind_of_never fun _ => (steady_require _).of_never) c
  case piece =>
    intro c _ _ _
    refine hsteady ((steady_readPiece _ c).bind (fun _ => (steady_pure _).of_never) ?_) c
    intro piece rest p' left hrest hrun
    cases hrun
    exact hrest

theorem readFrom_nil_of_open (h : p.outer ≠ []) : readFrom p [] = none := by
  obtain ⟨next, outer, houter⟩ := List.exists_cons_of_ne_nil h
  rw [readFrom_nil, Progress.finish?, houter]

theorem readFrom_dollar (p : Progress) : readFrom p ['$'] =
    readFrom (p.withInner (p.inner.add (.ofAssertion (endAssertion p.inner.flags)))) [] := by
  refine readFrom_of_step ?_
  rw [step_piece (by decide) (fun h => absurd h.2 (by decide)) (fun h => absurd h.2 (by decide))]
  rfl

/-- With two groups open, the closing leaves one open. -/
theorem readFrom_closing_of_open (h : p.outer ≠ []) : readFrom (p.inside level) closing = none := by
  obtain ⟨next, outer, houter⟩ := List.exists_cons_of_ne_nil h
  let closed : Progress := { p with inner := next.add p.inner.content.grouped, outer }
  have hclose : (step (p.inside level) ')').run ['$'] = (.ok (closed.inside level), ['$']) := by
    have hclosed : p.close? = some closed := by rw [Progress.close?, houter]
    rw [step_close, close?_inside h, hclosed]
    rfl
  rw [closing, readFrom_of_step hclose, readFrom_dollar]
  exact readFrom_nil_of_open (List.append_ne_nil_of_right_ne_nil _ (List.cons_ne_nil _ _))

/-- A counted repetition does not start with a parenthesis. -/
theorem readFrom_brace {u : List Char}
    (h : (skipSpace p.inner.flags.verbose u).head? = some ')') :
    readFrom p ('\x7b' :: u) = none := by
  obtain ⟨w, hw⟩ := List.head?_eq_some_iff.mp h
  have hmore : (Scan.more p.inner.flags.verbose).run u = (.ok (), ')' :: w) := by
    have hspace : (Scan.space p.inner.flags.verbose).run u = (.ok (), ')' :: w) :=
      congrArg (Prod.mk _) hw
    rw [Scan.more, Consumer.run_bind_of_ok hspace]
    rfl
  rw [readFrom_cons, step_brace]
  rcases hcount : (readCount p.inner.flags.verbose).run u with ⟨⟨⟩ | r, rest⟩
  · rw [Consumer.run_bind_of_error hcount]
  · rw [readCount, Consumer.run_bind_of_ok hmore] at hcount
    exact absurd hcount (readNumber_bind_parenthesis _ _ w r rest)

/-- **A reading that has gone astray is refused in the end**, as a group is still open. -/
theorem readFrom_astray (hopen : p.outer ≠ []) {s rest : List Char}
    (hastray : Astray p.inner.flags.verbose rest) (hsuffix : rest <:+ s ++ closing) :
    readFrom p rest = none := by
  rcases hastray with hlength | ⟨u, rfl, hu⟩
  · have hdollar : ['$'] <:+ s ++ closing :=
      (List.suffix_cons ')' ['$']).trans (List.suffix_append s closing)
    have hrest : rest <:+ ['$'] := List.suffix_of_suffix_length_le hsuffix hdollar hlength
    rcases List.suffix_cons_iff.mp hrest with rfl | hrest
    · rw [readFrom_dollar]
      exact readFrom_nil_of_open hopen
    · rw [List.suffix_nil.mp hrest]
      exact readFrom_nil_of_open hopen
  · exact readFrom_brace hu

/-- **A pattern that does not overclose is read alike inside of one more group**, up to the closing
    behind it; or it is refused there, since it is no pattern alone, or since its last comment takes
    the closing in. The induction is on the length of the pattern. -/
theorem readFrom_append_closing (level : Level) {s : List Char} (h : ¬ Overcloses p s) :
    (∃ q : Progress, q.outer = [] ∧ readFrom p s = some q.inner.content ∧
      Overcloses p (s ++ closing) ∧
      readFrom (p.inside level) (s ++ closing) = readFrom (q.inside level) closing) ∨
    (readFrom (p.inside level) (s ++ closing) = none ∧
      (readFrom p s = none ∨ MayEndInComment s ∧ ¬ Overcloses p (s ++ closing))) := by
  induction hlength : s.length using Nat.strongRecOn generalizing p s with
  | _ length ih =>
    have hopen (q : Progress) : (q.inside level).outer ≠ [] :=
      List.append_ne_nil_of_right_ne_nil _ (List.cons_ne_nil _ _)
    cases s with
    | nil =>
      by_cases houter : p.outer = []
      · refine .inl ⟨p, houter, ?_, .here houter, rfl⟩
        rw [readFrom_nil, Progress.finish?, houter]
      · exact .inr ⟨readFrom_closing_of_open houter, .inl (readFrom_nil_of_open houter)⟩
    | cons c s =>
      have hclose : c ≠ ')' ∨ p.outer ≠ [] := closes_open_of_not_overcloses h
      have htallies := tallies_step p c s
      rw [List.cons_append, readFrom_cons, readFrom_cons, step_inside hclose, Consumer.run_bind]
      generalize hstep : (step p c).run s = r at htallies
      generalize hstep' : (step p c).run (s ++ closing) = r' at htallies
      cases htallies with
      | @same p' rest hsuffix =>
        have hshorter : rest.length < length :=
          hlength ▸ Nat.lt_succ_of_le (length_le_of_run hstep)
        rw [overcloses_cons hclose hstep] at h
        rw [overcloses_cons hclose hstep']
        refine (ih rest.length hshorter h rfl).imp_right fun ⟨hinside, hread⟩ => ⟨hinside, ?_⟩
        exact hread.imp_right fun ⟨comment, hover⟩ => ⟨comment.of_suffix hsuffix, hover⟩
      | @swallowed p' comment =>
        rw [overcloses_cons hclose hstep']
        exact .inr ⟨readFrom_nil_of_open (hopen p'), .inr ⟨comment, not_overcloses_nil⟩⟩
      | refused => exact .inr ⟨rfl, .inl rfl⟩
      | @strayed p' rest rest' astray =>
        have hsuffix := tallies_step p c (s ++ closing)
        rw [hstep'] at hsuffix
        exact .inr ⟨readFrom_astray (s := c :: s) (hopen p') astray hsuffix.suffix, .inl rfl⟩

/-- **Between the two ends, a pattern that does not overclose is read as it is alone**, or it is
    refused: since it is refused alone, or since its last comment takes the closing in. -/
theorem readFrom_anchored {flags : Flags} (hverbose : flags.verbose = false) {s : List Char}
    (h : ¬ Overcloses { inner := { flags } } s) :
    (∃ piece, readFrom { inner := { flags } } s = some piece ∧
      Overcloses { inner := { flags } } (s ++ closing) ∧
      readFrom { inner := { flags } } ("^(?:".toList ++ s ++ closing) =
        some (betweenEnds flags piece)) ∨
    (readFrom { inner := { flags } } ("^(?:".toList ++ s ++ closing) = none ∧
      (readFrom { inner := { flags } } s = none ∨
        MayEndInComment s ∧ ¬ Overcloses { inner := { flags } } (s ++ closing))) := by
  rw [List.append_assoc, readFrom_betweenEnds hverbose]
  refine (readFrom_append_closing (aroundLevel flags) h).imp_left ?_
  rintro ⟨q, houter, hread, hover, hinside⟩
  refine ⟨q.inner.content, hread, hover, hinside.trans ?_⟩
  have hq : q.inside (aroundLevel flags) =
      { inner := q.inner, outer := [aroundLevel flags], names := q.names } := by
    rw [Progress.inside, houter]
    rfl
  rw [hq]
  exact readFrom_end flags q.inner q.names

/-- So a pattern that is sound alone is read alike there exactly if the closing is read as such. -/
theorem readFrom_anchored_of_readFrom {flags : Flags} (hverbose : flags.verbose = false)
    {s : List Char} {piece : Piece} (h : readFrom { inner := { flags } } s = some piece) :
    (Overcloses { inner := { flags } } (s ++ closing) ∧
      readFrom { inner := { flags } } ("^(?:".toList ++ s ++ closing) =
        some (betweenEnds flags piece)) ∨
    (¬ Overcloses { inner := { flags } } (s ++ closing) ∧ MayEndInComment s ∧
      readFrom { inner := { flags } } ("^(?:".toList ++ s ++ closing) = none) := by
  rcases readFrom_anchored hverbose (not_overcloses_of_readFrom h) with
    ⟨piece', hread, hover, hanchored⟩ | ⟨hnone, hread | ⟨hcomment, hover⟩⟩
  · cases hread.symm.trans h
    exact .inl ⟨hover, hanchored⟩
  · nomatch hread.symm.trans h
  · exact .inr ⟨hover, hcomment, hnone⟩

-- A comment at the end of a pattern takes the closing in.
example : (Regex.compile? { ignoreCase := false, dotAll := true } "(?x)a#".toList).isSome = true ∧
    Regex.compile? { ignoreCase := false, dotAll := true } "^(?:(?x)a#)$".toList = none := by
  constructor <;> cbv

end Verdict.Pattern
