import Mathlib.Data.List.TakeWhile
import Verdict.Proofs.Regex.Splice
import Verdict.Regex.Grammar

/-!
# The steps that read a pattern are steady

Step by step, the runs on a text and on the text with the closing behind it tally.

* `steady_readCount`, `steady_readMark`, `steady_readOpening`: repetitions and the starts of groups;
* `steady_readEscape`: escapes -- `AtBrace` is where one of them goes astray without having taken
  anything of the closing;
* `steady_readBracket`: bracketed classes;
* **`steady_readPiece`**: all that is a piece.
-/

namespace Verdict.Pattern

variable {α β : Type}

/-! ## 1. Repetitions -/

theorem steady_readDigits (verbose : Bool) (n : Nat) : Steady Never (readDigits verbose n) := by
  induction n with
  | zero => exact steady_pure []
  | succ n ih =>
    unfold readDigits
    refine Steady.ahead_bind (fun c s => ?_) (.same List.suffix_rfl)
    dsimp only
    split
    · refine Steady.take_cons ?_ s
      refine (steady_space verbose).bind_of_never fun _ => ?_
      exact ih.bind_of_never fun digits => steady_pure (c :: digits)
    · exact steady_pure [] (c :: s)

theorem paced_readDigits (verbose : Bool) : Paced (readDigits verbose) where
  nil n n' := by cases n <;> cases n' <;> rfl
  cons {n n' s} c h := by
    have hrun (n : Nat) : (readDigits verbose (n + 1)).run (c :: s) = if c.isDigit then
          (readDigits verbose n >>= fun digits => pure (c :: digits)).run (skipSpace verbose s)
        else (.ok [], c :: s) := by
      show ((if c.isDigit then _ else _ : Scan (List Char)).run (c :: s)) = _
      split <;> rfl
    rw [hrun, hrun, Consumer.run_bind, Consumer.run_bind, h _ (length_skipSpace verbose s)]

theorem steady_readNumber (verbose : Bool) : Steady Never (readNumber verbose) := by
  have hspace : Text.isWhitespace ')' = false := by decide
  unfold readNumber
  refine (steady_takeWhile hspace).bind_of_never fun _ => ?_
  refine Steady.remaining_bind fun s => ?_
  have hdigits := (paced_readDigits verbose).tallies (steady_readDigits verbose) s
  refine hdigits.bind_of_never fun digits rest _ => ?_
  refine (steady_takeWhile hspace).bind_of_never (fun _ => ?_) rest
  split
  · exact steady_reject
  · exact steady_pure _

/-- A parenthesis starts no number. -/
theorem readNumber_bind_parenthesis (verbose : Bool) (f : Nat → Scan α) (s : List Char) (a : α)
    (rest : List Char) : (readNumber verbose >>= f).run (')' :: s) ≠ (.ok a, rest) := by
  have hrun : (readNumber verbose).run (')' :: s) = (.error (), ')' :: s) := rfl
  rw [Consumer.run_bind_of_error hrun]
  exact nofun

theorem steady_readCount (verbose : Bool) : Steady Never (readCount verbose) := by
  have hend (repetition : Repetition) : Steady Never (do
      if ← Scan.takeIf '\x7d' then
        Scan.space verbose
        let _ ← Scan.takeIf '?'
        if repetition.isOrdered then return repetition else Scan.reject
      else Scan.reject) := by
    refine (steady_takeIf (by decide)).bind_of_never fun brace => ?_
    split
    · refine (steady_space verbose).bind_of_never fun _ => ?_
      refine (steady_takeIf (by decide)).bind_of_never fun _ => ?_
      split
      · exact steady_pure repetition
      · exact steady_reject
    · exact steady_reject
  have hmost (least : Nat) := (steady_readNumber verbose).bind_of_never fun most =>
    (steady_pure (Repetition.mk least (some most))).bind_of_never hend
  unfold readCount
  refine (steady_more verbose).bind_of_untouched (fun _ => ?_)
    fun _ _ _ => readNumber_bind_parenthesis verbose _ _ _ _
  refine (steady_readNumber verbose).bind_of_never fun least => ?_
  refine (steady_takeIf (by decide)).bind_of_never fun comma => ?_
  dsimp only
  split
  · refine (steady_more verbose).bind_of_untouched (fun _ => ?_) fun _ r rest => ?_
    · refine Steady.ahead_bind (fun c s => ?_) (hmost least [])
      split
      · exact (steady_pure _).bind_of_never hend (c :: s)
      · exact hmost least (c :: s)
    · rw [run_ahead_bind, if_neg (by decide)]
      exact readNumber_bind_parenthesis verbose _ _ r rest
  · exact (steady_pure _).bind_of_never hend

theorem steady_readMark (r : Repetition) : Steady Never (readMark r) :=
  (steady_takeIf (by decide)).bind_of_never fun _ => steady_pure r

/-! ## 2. Openings -/

theorem steady_readModes (flags : Flags) : Steady (Within 1) (readModes flags) := by
  unfold readModes
  refine (steady_takeWhile (by decide)).bind_of_never fun text => ?_
  refine steady_take.bind_within fun last => Steady.of_never ?_
  split
  · exact steady_reject
  · split
    · exact steady_pure _
    · split
      · exact steady_reject
      · exact steady_pure _

section Until

variable {c : Char} {s : List Char}

theorem takeWhile_until (hs : c ∉ s) (rest : List Char) :
    (s ++ c :: rest).takeWhile (· != c) = s ∧ (s ++ c :: rest).dropWhile (· != c) = c :: rest := by
  have hpass : ∀ d ∈ s, (d != c) = true := fun d hd => bne_iff_ne.mpr fun h => hs (h ▸ hd)
  rw [List.takeWhile_append_of_pos hpass, List.dropWhile_append_of_pos hpass]
  simp

theorem takeWhile_all (hs : c ∉ s) : s.takeWhile (· != c) = s ∧ s.dropWhile (· != c) = [] := by
  have hpass : ∀ d ∈ s, (d != c) = true := fun d hd => bne_iff_ne.mpr fun h => hs (h ▸ hd)
  exact ⟨List.takeWhile_eq_self_iff.mpr hpass, List.dropWhile_eq_nil_iff.mpr hpass⟩

end Until

theorem run_readName_of_mem {name : List Char} (hname : '>' ∉ name) (rest : List Char) :
    readName.run (name ++ '>' :: rest) =
      (if isGroupName name then .ok name else .error (), rest) := by
  have htake : (Scan.takeWhile (· != '>')).run (name ++ '>' :: rest) = (.ok name, '>' :: rest) := by
    show (Except.ok _, _) = _
    rw [(takeWhile_until hname rest).1, (takeWhile_until hname rest).2]
  rw [readName, Consumer.run_bind_of_ok htake]
  show (if isGroupName name then pure name else Scan.reject : Scan _).run rest = _
  split <;> rfl

theorem run_readName_of_not_mem {s : List Char} (hs : '>' ∉ s) :
    readName.run s = (.error (), []) := by
  have htake : (Scan.takeWhile (· != '>')).run s = (.ok s, []) := by
    show (Except.ok _, _) = _
    rw [(takeWhile_all hs).1, (takeWhile_all hs).2]
  rw [readName, Consumer.run_bind_of_ok htake]
  rfl

/-- The closing does not end a name. -/
theorem steady_readName : Steady Never readName := by
  intro s
  by_cases hs : '>' ∈ s
  · obtain ⟨name, rest, rfl, hname⟩ := List.eq_append_cons_of_mem hs
    rw [List.append_assoc, List.cons_append, run_readName_of_mem hname, run_readName_of_mem hname]
    split
    · exact .same ((List.suffix_cons '>' rest).trans (List.suffix_append name _))
    · exact .refused
  · have hclosing : '>' ∉ s ++ closing := not_mem_append_closing hs (by decide)
    rw [run_readName_of_not_mem hs, run_readName_of_not_mem hclosing]
    exact .refused

theorem lookarounds_append_closing (s : List Char) :
    (lookarounds.any fun l => l.toList.isPrefixOf (s ++ closing)) =
      lookarounds.any fun l => l.toList.isPrefixOf s := by
  have hsigns : ∀ l ∈ lookarounds, ')' ∉ l.toList := by decide
  rw [Bool.eq_iff_iff, List.any_eq_true, List.any_eq_true]
  refine exists_congr fun l => and_congr_right fun hl => ?_
  rw [isPrefixOf_append_closing (hsigns l hl)]

theorem steady_readOpening (flags : Flags) : Steady (Within 1) (readOpening flags) := by
  have hnamed : Steady Never (do return Opening.group flags (some (← readName))) :=
    steady_readName.bind_of_never fun name => steady_pure _
  unfold readOpening
  refine (steady_space _).bind_of_never fun _ => Steady.remaining_bind fun s => ?_
  rw [lookarounds_append_closing]
  split
  · exact steady_reject.of_never s
  · refine (steady_takeAll (by decide)).bind_of_never (fun isNamed => ?_) s
    split
    · exact hnamed.of_never
    · refine (steady_takeAll (by decide)).bind_of_never fun isNamed => ?_
      split
      · exact hnamed.of_never
      · refine (steady_takeIf (by decide)).bind_of_never fun isSetting => ?_
        split
        · exact steady_readModes flags
        · exact (steady_pure _).of_never

/-! ## 3. Escapes -/

theorem steady_untilBrace (verbose : Bool) (accept : Char → Bool) :
    Steady (Within 1) (untilBrace verbose accept) := by
  refine Steady.items _ (steady_takeSymbol verbose) fun c => Steady.of_never ?_
  split
  · exact steady_pure none
  · split
    · exact steady_pure (some c)
    · exact steady_reject

theorem steady_readHexDigits (verbose : Bool) (n : Nat) :
    Steady (Within 1) (readHexDigits verbose n) := by
  induction n with
  | zero => exact (steady_pure []).of_never
  | succ n ih =>
    unfold readHexDigits
    refine (steady_takeSymbol verbose).bind_within fun c => ?_
    split
    · exact ih.bind_within fun digits => (steady_pure (c :: digits)).of_never
    · exact steady_reject.of_never

theorem steady_readHex (verbose : Bool) (width : Nat) :
    Steady (Within 1) (readHex verbose width) := by
  have hchar (braces : Bool) (digits : List Char) : Steady (Within 1) (do
      return Atom.literal (← Scan.require (hexChar? digits)) (!braces && width == 2)) :=
    ((steady_require _).bind_of_never fun c => steady_pure _).of_never
  unfold readHex
  refine (steady_space verbose).bind_of_never fun _ => ?_
  refine (steady_takeIf (by decide)).bind_of_never fun braces => ?_
  dsimp only
  split
  · exact (steady_untilBrace verbose _).bind_within (hchar braces)
  · exact (steady_readHexDigits verbose width).bind_within (hchar braces)

/-- The name of a property that is a single letter. -/
theorem steady_propertyLetter {k : List Char → Scan Atom}
    (hk : ∀ name, Steady (Within 1) (k name)) : Steady (Within 1) (Scan.take >>= fun c =>
      if c = '\\' then Scan.reject >>= k else pure [c] >>= k) := by
  refine steady_take.bind_within fun c => ?_
  split
  · exact steady_reject.bind_of_never hk
  · exact (steady_pure [c]).bind_of_never hk

theorem steady_readProperty (flags : Flags) (negated : Bool) :
    Steady (Within 1) (readProperty flags negated) := by
  have hclass (name : List Char) : Steady (Within 1) (do
      if !flags.unicode then Scan.reject
      else
        let found ← Scan.require (propertyClass? name)
        return Atom.set (← Scan.require (finishClass flags (negated != found.2) found.1))) := by
    refine Steady.of_never ?_
    split
    · exact steady_reject
    · refine (steady_require _).bind_of_never fun found => ?_
      exact (steady_require _).bind_of_never fun c => steady_pure _
  unfold readProperty
  refine (steady_space _).bind_of_never fun _ => ?_
  have hletter := steady_propertyLetter hclass
  refine Steady.ahead_bind (fun c s => ?_) (hletter [])
  dsimp only
  split
  · rename_i hbrace
    obtain rfl : c = '\x7b' := Option.some.inj hbrace
    exact Steady.take_cons ((steady_untilBrace _ _).bind_within hclass) s
  · exact hletter (c :: s)

/-- A brace is ahead, and behind it the parenthesis of the closing. -/
def AtBrace (verbose : Bool) (rest : List Char) : Prop :=
  ∃ u, rest = '\x7b' :: u ∧ (skipSpace verbose u).head? = some ')'

/-- An escape goes astray into the closing, or it is a word boundary at a brace: where the text ends
    there, no name can follow, with the closing behind it something does. -/
def StrayAtom (verbose : Bool) (atom : Atom) (rest : List Char) : Prop :=
  rest.length ≤ 1 ∨ (∃ a, atom = .assertion a) ∧ AtBrace verbose rest

theorem steady_readWordAssertion (flags : Flags) :
    Steady (StrayAtom flags.verbose) (readWordAssertion flags) := by
  have hnamed (accept : Char → Bool) : Steady (Within 1) (do
      let kind ← Scan.require (wordAssertion? (← untilBrace flags.verbose accept))
      return Atom.assertion (.word kind !flags.unicode)) :=
    (steady_untilBrace _ accept).bind_within fun name =>
      ((steady_require (wordAssertion? name)).bind_of_never fun kind => steady_pure _).of_never
  unfold readWordAssertion
  refine Steady.remaining_bind fun s => ?_
  dsimp only
  by_cases hbrace : ∃ u, s = '\x7b' :: u
  · obtain ⟨u, rfl⟩ := hbrace
    simp only [List.cons_append]
    rcases skipSpace_append_closing flags.verbose u with h | ⟨-, h, h'⟩
    · rw [h]
      cases hu : skipSpace flags.verbose u with
      | nil =>
        rw [hu] at h
        exact .strayed (.inr ⟨⟨_, rfl⟩, u ++ closing, rfl, congrArg List.head? h⟩)
      | cons c w =>
        dsimp only [List.cons_append]
        split
        · exact Steady.take_cons ((hnamed _).mono fun _ _ => Or.inl) u
        · exact .same List.suffix_rfl
    · rw [h, h']
      exact .refused
  · -- With the closing behind it, the text does not start with a brace either.
    have hother : ∀ u, s ++ closing ≠ '\x7b' :: u := by
      intro u h
      cases s with
      | nil => cases h
      | cons c s => exact hbrace ⟨s, congrArg (· :: s) (List.cons.inj h).1⟩
    split
    · exact absurd ⟨_, rfl⟩ hbrace
    · exact .same List.suffix_rfl

theorem steady_readEscape (flags : Flags) :
    Steady (StrayAtom flags.verbose) (readEscape flags) := by
  have hwithin {x : Scan Atom} (h : Steady (Within 1) x) : Steady (StrayAtom flags.verbose) x :=
    h.mono fun _ _ => Or.inl
  have hpure (atom : Atom) : Steady (StrayAtom flags.verbose) (pure atom) :=
    (steady_pure atom).of_never
  unfold readEscape
  refine steady_take.bind (fun c => ?_) fun _ _ _ _ hrest hrun =>
    .inl (Nat.le_trans (length_le_of_run hrun) hrest)
  dsimp only
  split
  iterate 3 exact hwithin (steady_readHex _ _)
  iterate 2 exact hwithin (steady_readProperty _ _)
  iterate 8 exact hpure _
  · exact steady_readWordAssertion flags
  iterate 3 exact hpure _
  · split
    · exact hpure _
    · exact ((steady_require _).bind_of_never fun c => steady_pure _).of_never

/-- The step never answers. -/
def Refuses (x : Scan α) : Prop := ∀ s a rest, x.run s ≠ (.ok a, rest)

theorem refuses_reject : Refuses (Scan.reject : Scan α) := nofun

theorem Refuses.bind {x : Scan β} {f : β → Scan α} (h : ∀ b, Refuses (f b)) :
    Refuses (x >>= f) := by
  intro s a rest hrun
  obtain ⟨b, s', -, hf⟩ := Consumer.run_bind_eq_ok_iff.mp hrun
  exact h b s' a rest hf

/-- An escape is not astray where no assertion can be used. -/
theorem Steady.bind_atom {verbose : Bool} {x : Scan Atom} {f : Atom → Scan α} {n : Nat}
    (h : Steady (StrayAtom verbose) x) (hn : 1 ≤ n) (hf : ∀ atom, Steady (Within n) (f atom))
    (hassertion : ∀ a, Refuses (f (.assertion a))) : Steady (Within n) (x >>= f) := by
  refine h.bind hf fun atom rest a left hrest hrun => ?_
  rcases hrest with hrest | ⟨⟨a', rfl⟩, -⟩
  · exact Nat.le_trans (length_le_of_run hrun) (Nat.le_trans hrest hn)
  · exact absurd hrun (hassertion a' _ _ _)

/-! ## 4. Bracketed classes -/

theorem steady_readAtom (flags : Flags) (c : Char) :
    Steady (StrayAtom flags.verbose) (readAtom flags c) := by
  unfold readAtom
  split
  · exact steady_readEscape flags
  · exact (steady_pure _).of_never

section SecondAhead

variable {s w : List Char} {d : Char}

theorem secondAhead_of_blank (h : s.dropWhile Text.isWhitespace = []) :
    secondAhead true (d :: s) = s.head? := by
  simp [secondAhead, h]

theorem secondAhead_of_comment (h : s.dropWhile Text.isWhitespace = '#' :: w) :
    secondAhead true (d :: s) = if w.dropWhile Text.isWhitespace = [] then s.head?
      else (w.dropWhile Text.isWhitespace).head? := by
  simp only [secondAhead, List.drop_succ_cons, List.drop_zero, h]
  cases w.dropWhile Text.isWhitespace <;> rfl

theorem secondAhead_of_symbol {c : Char} (h : s.dropWhile Text.isWhitespace = c :: w)
    (hc : c ≠ '#') : secondAhead true (d :: s) = some c := by
  simp [secondAhead, h]

theorem dropWhile_of_head {c : Char} (hc : ¬ Text.isWhitespace c = true) (h : s.head? = some c) :
    s.dropWhile Text.isWhitespace = s := by
  obtain ⟨rest, rfl⟩ := List.head?_eq_some_iff.mp h
  exact List.dropWhile_cons_of_neg hc

/-- The closing only counts where the text ends, and it has no bracket and no hyphen. -/
theorem secondAhead_append_closing (verbose : Bool) (s : List Char) {c : Char}
    (hc : c ∈ [']', '-']) :
    secondAhead verbose (d :: (s ++ closing)) = some c ↔
      secondAhead verbose (d :: s) = some c := by
  have hsymbol : c ≠ ')' ∧ c ≠ '#' ∧ ¬ Text.isWhitespace c = true := by
    rcases List.mem_pair.mp hc with rfl | rfl <;> decide
  obtain ⟨hclosing, hsign, hblank⟩ := hsymbol
  have hother : some ')' ≠ some c := fun h => hclosing (Option.some.inj h).symm
  cases verbose with
  | false => exact head_append_closing hclosing s
  | true =>
    have hspace : Text.isWhitespace ')' = false := by decide
    have hdrop (s : List Char) := (takeWhile_append_closing hspace s).2
    have hbehind := hdrop s
    cases hs : s.dropWhile Text.isWhitespace with
    | nil =>
      rw [hs] at hbehind
      rw [secondAhead_of_symbol hbehind (by decide), secondAhead_of_blank hs]
      refine iff_of_false hother fun h => ?_
      rw [← dropWhile_of_head hblank h, hs] at h
      cases h
    | cons first w =>
      rw [hs, List.cons_append] at hbehind
      by_cases hfirst : first = '#'
      · subst hfirst
        rw [secondAhead_of_comment hbehind, secondAhead_of_comment hs, hdrop w]
        cases w.dropWhile Text.isWhitespace with
        | nil =>
          refine iff_of_false hother fun h => ?_
          rw [if_pos rfl, ← dropWhile_of_head hblank h, hs] at h
          exact hsign (Option.some.inj h).symm
        | cons => exact Iff.rfl
      · rw [secondAhead_of_symbol hbehind hfirst, secondAhead_of_symbol hs hfirst]

end SecondAhead

/-- The end of a range, behind its hyphen. -/
theorem steady_range (flags : Flags) (first : Atom) : Steady (Within 2) (do
    let last ← readAtom flags (← Scan.takeSymbol flags.verbose)
    match first, last with
    | .literal low _, .literal high _ => Scan.require (rangeItem? flags low high)
    | _, _ => Scan.reject) := by
  refine ((steady_takeSymbol _).mono fun _ _ => Nat.le_succ_of_le).bind_within fun c => ?_
  refine (steady_readAtom flags c).bind_atom (by decide) (fun last => Steady.of_never ?_)
    fun a => ?_
  · split
    · exact steady_require _
    · exact steady_reject
  · cases first <;> exact refuses_reject

theorem steady_readItem (flags : Flags) (c : Char) : Steady (Within 2) (readItem flags c) := by
  unfold readItem
  refine (steady_readAtom flags c).bind_atom (by decide) (fun first => ?_) fun a => ?_
  · refine (steady_space _).bind_of_never fun _ => Steady.remaining_bind fun s => ?_
    cases s with
    | nil => exact .of_refused fun _ _ hrun => length_le_of_run hrun
    | cons d s =>
      have hrange := Steady.take_cons (c := d) (f := fun _ => _) (steady_range flags first) s
      have hsame : ((d :: s ++ closing).head? ≠ some '-' ∨
            secondAhead flags.verbose (d :: s ++ closing) = some ']' ∨
            secondAhead flags.verbose (d :: s ++ closing) = some '-') ↔
          ((d :: s).head? ≠ some '-' ∨ secondAhead flags.verbose (d :: s) = some ']' ∨
            secondAhead flags.verbose (d :: s) = some '-') := by
        have hsecond {c : Char} := secondAhead_append_closing (d := d) flags.verbose s (c := c)
        exact or_congr Iff.rfl (or_congr (hsecond (by decide)) (hsecond (by decide)))
      dsimp only
      rw [if_neg (c := (d :: s).isEmpty = true) Bool.false_ne_true,
        if_neg (c := (d :: s ++ closing).isEmpty = true) Bool.false_ne_true]
      by_cases hshort : (d :: s).head? ≠ some '-' ∨
          secondAhead flags.verbose (d :: s) = some ']' ∨
          secondAhead flags.verbose (d :: s) = some '-'
      · rw [if_pos hshort, if_pos (hsame.mpr hshort)]
        cases first with
        | literal c byte => exact (steady_require _).of_never (d :: s)
        | set c => exact (steady_pure _).of_never (d :: s)
        | assertion a => exact steady_reject.of_never (d :: s)
      · rw [if_neg hshort, if_neg (hshort ∘ hsame.mp)]
        exact hrange
  · refine Refuses.bind fun _ => Refuses.bind fun rest => ?_
    dsimp only
    split
    · exact refuses_reject
    · split
      · exact refuses_reject
      · exact Refuses.bind fun _ => Refuses.bind fun _ => Refuses.bind fun last => refuses_reject

/-- The class that is called by what stands behind the colon and the circumflex. -/
def calledClass? (negated : Bool) (body : List Char) : Option (Bool × Unicode.CharClass × Nat) :=
  let name := body.takeWhile (· != ':')
  match body.dropWhile (· != ':') with
  | ':' :: ']' :: _ =>
    (asciiClasses.lookup (String.ofList name)).map fun c =>
      (negated, c, name.length + if negated then 4 else 3)
  | _ => none

section NamedClass

variable {negated : Bool} {s name : List Char}

theorem namedClass?_colon (s : List Char) : namedClass? (':' :: s) =
    calledClass? (s.head? == some '^') (if s.head? == some '^' then s.tail else s) := rfl

theorem namedClass?_other {c : Char} (hc : c ≠ ':') (s : List Char) :
    namedClass? (c :: s) = none := by
  simp [namedClass?, hc]

theorem calledClass?_until (hname : ':' ∉ name) (rest : List Char) :
    calledClass? negated (name ++ ':' :: rest) = if rest.head? = some ']' then
      (asciiClasses.lookup (String.ofList name)).map fun c =>
        (negated, c, name.length + if negated then 4 else 3)
    else none := by
  rw [calledClass?, (takeWhile_until hname rest).1, (takeWhile_until hname rest).2]
  split
  · rename_i h
    cases h
    exact (if_pos List.head?_cons).symm
  · rename_i h
    refine (if_neg fun hhead => ?_).symm
    obtain ⟨left, rfl⟩ := List.head?_eq_some_iff.mp hhead
    exact h left rfl

theorem calledClass?_all (hs : ':' ∉ s) : calledClass? negated s = none := by
  rw [calledClass?, (takeWhile_all hs).2]

/-- The closing does not complete the call of a class. -/
theorem calledClass?_append_closing (s : List Char) :
    calledClass? negated (s ++ closing) = calledClass? negated s := by
  by_cases hs : ':' ∈ s
  · obtain ⟨name, rest, rfl, hname⟩ := List.eq_append_cons_of_mem hs
    rw [List.append_assoc, List.cons_append, calledClass?_until hname, calledClass?_until hname]
    simp only [head_append_closing (c := ']') (by decide)]
  · have hclosing : ':' ∉ s ++ closing := not_mem_append_closing hs (by decide)
    rw [calledClass?_all hs, calledClass?_all hclosing]

theorem namedClass?_append_closing (s : List Char) :
    namedClass? (s ++ closing) = namedClass? s := by
  cases s with
  | nil => rfl
  | cons c s =>
    by_cases hc : c = ':'
    · have hhead : ((s ++ closing).head? == some '^') = (s.head? == some '^') := by
        rw [Bool.eq_iff_iff, beq_iff_eq, beq_iff_eq, head_append_closing (by decide)]
      rw [hc, List.cons_append, namedClass?_colon, namedClass?_colon, hhead]
      cases s with
      | nil => rfl
      | cons d s =>
        split
        · exact calledClass?_append_closing s
        · exact calledClass?_append_closing (d :: s)
    · rw [List.cons_append, namedClass?_other hc, namedClass?_other hc]

theorem length_le_of_calledClass? {c : Bool × Unicode.CharClass × Nat}
    (h : calledClass? negated s = some c) : c.2.2 ≤ s.length + if negated then 2 else 1 := by
  by_cases hs : ':' ∈ s
  · obtain ⟨name, rest, rfl, hname⟩ := List.eq_append_cons_of_mem hs
    rw [calledClass?_until hname] at h
    split at h
    · rename_i hhead
      obtain ⟨left, rfl⟩ := List.head?_eq_some_iff.mp hhead
      obtain ⟨found, -, rfl⟩ := Option.map_eq_some_iff.mp h
      rw [List.length_append, List.length_cons, List.length_cons]
      dsimp only
      split <;> omega
    · cases h
  · rw [calledClass?_all hs] at h
    cases h

/-- The call of a class stands in the text as a whole. -/
theorem length_le_of_namedClass? {c : Bool × Unicode.CharClass × Nat}
    (h : namedClass? s = some c) : c.2.2 ≤ s.length := by
  cases s with
  | nil => cases h
  | cons d s =>
    by_cases hd : d = ':'
    · rw [hd, namedClass?_colon] at h
      have hlength := length_le_of_calledClass? h
      cases s with
      | nil => exact hlength
      | cons e s =>
        generalize ((e :: s).head? == some '^') = negated at hlength
        cases negated <;> exact hlength
    · rw [namedClass?_other hd] at h
      cases h

end NamedClass

theorem steady_countHyphens (flags : Flags) (n : Nat) :
    Steady (Within 2) (readBracketStart.countHyphens flags n) := by
  induction n with
  | zero => exact (steady_pure 0).of_never
  | succ n ih =>
    unfold readBracketStart.countHyphens
    refine (steady_takeIf (by decide)).bind_of_never fun isHyphen => ?_
    split
    · refine (steady_more _).of_untouched.bind_within fun _ => ?_
      exact ih.bind_within fun count => (steady_pure (1 + count)).of_never
    · exact (steady_pure 0).of_never

theorem paced_countHyphens (flags : Flags) : Paced (readBracketStart.countHyphens flags) where
  nil n n' := by cases n <;> cases n' <;> rfl
  cons {n n' s} c h := by
    have hrun (n : Nat) : (readBracketStart.countHyphens flags (n + 1)).run (c :: s) =
        if c = '-' then (Scan.more flags.verbose >>= fun _ =>
          readBracketStart.countHyphens flags n >>= fun count => pure (1 + count)).run s
        else (.ok 0, c :: s) := by
      rw [readBracketStart.countHyphens]
      by_cases hc : c = '-'
      · have htake : (Scan.takeIf '-').run (c :: s) = (.ok true, s) := if_pos hc
        rw [if_pos hc, Consumer.run_bind_of_ok htake]
        rfl
      · have htake : (Scan.takeIf '-').run (c :: s) = (.ok false, c :: s) := if_neg hc
        rw [if_neg hc, Consumer.run_bind_of_ok htake]
        rfl
    rw [hrun, hrun, Consumer.run_bind, Consumer.run_bind]
    rcases hmore : (Scan.more flags.verbose).run s with ⟨_ | _, rest⟩
    · rfl
    · dsimp only
      rw [Consumer.run_bind, Consumer.run_bind, h rest (length_le_of_run hmore)]

theorem steady_readBracketStart (flags : Flags) : Steady (Within 2) (readBracketStart flags) := by
  unfold readBracketStart
  refine (steady_more _).of_untouched.bind_within fun _ => ?_
  refine (steady_takeIf (by decide)).bind_of_never fun negated => ?_
  refine (steady_more _).of_untouched.bind_within fun _ => ?_
  refine Steady.remaining_bind fun s => ?_
  have hhyphens := (paced_countHyphens flags).tallies (steady_countHyphens flags) s
  refine hhyphens.bind_within fun hyphens rest _ => ?_
  split
  · refine (steady_takeIf (by decide)).bind_of_never (fun isBracket => ?_) rest
    split
    · refine (steady_more _).of_untouched.bind_within fun _ => ?_
      exact (steady_pure _).of_never
    · exact (steady_pure _).of_never
  · exact (steady_pure _).of_never rest

theorem tallies_skipChars {n : Nat} {s : List Char} (hn : n ≤ s.length) :
    Tallies Never s ((skipChars n).run s) ((skipChars n).run (s ++ closing)) := by
  show Tallies Never s (.ok (), s.drop n) (.ok (), (s ++ closing).drop n)
  rw [List.drop_append_of_le_length hn]
  exact .same (List.drop_suffix n s)

theorem steady_bracketStep (flags : Flags) (brackets : Brackets) (c : Char) :
    Steady Round (bracketStep flags brackets c) := by
  obtain ⟨inner, outer⟩ := brackets
  -- The rounds that go on with the brackets that are open then.
  have hopen {γ : Type} {x : Scan γ} (hx : Steady (Within 2) x) (f : γ → Brackets) :
      Steady (Round (β := Part)) (x >>= fun a => pure (.inl (f a))) :=
    hx.bind (fun a => (steady_pure _).of_never) fun a _ _ _ hrest hrun => by
      cases hrun
      exact hrest
  have htake (f : Char → Brackets) :=
    hopen (steady_take.mono fun _ _ => Nat.le_succ_of_le) f
  unfold bracketStep
  refine Steady.remaining_bind fun s => ?_
  simp only [namedClass?_append_closing, head_append_closing (c := '&') (by decide),
    head_append_closing (c := '-') (by decide), head_append_closing (c := '~') (by decide)]
  split
  · split
    · rename_i hnamed
      have hskip := tallies_skipChars (length_le_of_namedClass? hnamed)
      refine hskip.bind_of_never fun _ rest _ => ?_
      exact ((steady_require _).bind_of_never fun set => (steady_pure _).of_never) rest
    · exact hopen (steady_readBracketStart flags) _ s
  · split
    · refine (steady_require _).bind_of_never (fun part => Steady.of_never ?_) s
      cases outer with
      | nil => exact steady_pure _
      | cons next outer => exact steady_pure _
    · split
      · exact htake _ s
      · split
        · exact htake _ s
        · split
          · exact htake _ s
          · exact hopen (steady_readItem flags c) _ s

theorem steady_readBracket (flags : Flags) : Steady (Within 1) (readBracket flags) := by
  unfold readBracket
  refine (steady_readBracketStart flags).bind (fun first => ?_) fun _ _ _ _ hrest hrun => ?_
  · exact Steady.loop _ (steady_takeSymbol _) (steady_bracketStep flags) _
  · have hleft := Consumer.loop_advances _ _ _ _ _ _ hrun
    exact Nat.le_of_lt_succ (Nat.lt_of_lt_of_le hleft hrest)

/-! ## 5. Pieces -/

/-- Astray: in the closing, or at a brace before it. -/
def Astray (verbose : Bool) (rest : List Char) : Prop := rest.length ≤ 1 ∨ AtBrace verbose rest

/-- **A piece is read alike, or astray.** -/
theorem steady_readPiece (flags : Flags) (c : Char) :
    Steady (fun _ => Astray flags.verbose) (readPiece flags c) := by
  unfold readPiece
  split
  · have hbracket := (steady_readBracket flags).bind_within fun part =>
      (steady_pure ({ pattern := .one part.set, levels := part.depth } : Piece)).of_never
    exact hbracket.mono fun _ _ => Or.inl
  · refine (steady_readEscape flags).bind (fun atom => (steady_require _).of_never) ?_
    intro atom rest piece rest' hrest hrun
    have hlength := length_le_of_run hrun
    rcases hrest with hrest | ⟨⟨a, rfl⟩, hrest⟩
    · exact .inl (Nat.le_trans hlength hrest)
    · cases hrun
      exact .inr hrest
  · exact (steady_require _).of_never
  · exact (steady_pure _).of_never
  · exact (steady_pure _).of_never
  · exact (steady_require _).of_never

end Verdict.Pattern
