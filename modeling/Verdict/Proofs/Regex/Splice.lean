import Mathlib.Data.List.Infix
import Verdict.Proofs.Consumer
import Verdict.Regex.Scan

/-!
# Reading steps with a closing behind their text

A pattern that must match the whole text is read with a closing behind it. This file compares the
run of a reading step on a text with its run on the text and the closing.

* `closing`, `MayEndInComment`: the closing, and texts whose last comment could take it in;
* `Tallies`: how the two runs go together -- they answer the same and the closing is left, a comment
  took it in, both fail, or the second one answers astray;
* `Steady`: a step whose runs tally on every text; `Never`, `Untouched` and `Within` are bounds for
  going astray;
* **`Tallies.bind`**: sequences of steady steps are steady;
* `steady_take`, `steady_space`, …: the single steps;
* `Paced`, `Steady.items`, `Steady.loop`: steps in rounds.
-/

namespace Verdict.Pattern

/-! ## 1. The two runs of a step -/

/-- What stands behind a pattern that must match the whole text. -/
def closing : List Char := [')', '$']

/-- A number sign stands in the text, and no line feed behind it. -/
def MayEndInComment (s : List Char) : Prop :=
  ∃ before comment, s = before ++ '#' :: comment ∧ '\n' ∉ comment

theorem MayEndInComment.of_suffix {s s' : List Char} (h : MayEndInComment s') (hs : s' <:+ s) :
    MayEndInComment s := by
  obtain ⟨before, comment, rfl, hcomment⟩ := h
  obtain ⟨front, rfl⟩ := hs
  exact ⟨front ++ before, comment, (List.append_assoc _ _ _).symm, hcomment⟩

variable {α β : Type}

/-- How the run of a step on `s` and its run with the closing behind `s` go together. Where only the
    second one answers, its answer and the rest are `stray`. -/
inductive Tallies (stray : α → List Char → Prop) (s : List Char) :
    Except Unit α × List Char → Except Unit α × List Char → Prop
  /-- Both answer the same, and the closing is left. -/
  | same {a : α} {rest : List Char} (suffix : rest <:+ s) :
      Tallies stray s (.ok a, rest) (.ok a, rest ++ closing)
  /-- Both answer the same, and a comment has taken the closing in. -/
  | swallowed {a : α} (comment : MayEndInComment s) : Tallies stray s (.ok a, []) (.ok a, [])
  | refused {rest rest' : List Char} : Tallies stray s (.error (), rest) (.error (), rest')
  | strayed {a : α} {rest rest' : List Char} (astray : stray a rest') :
      Tallies stray s (.error (), rest) (.ok a, rest')

/-- On every text, the two runs of the step tally. -/
def Steady (stray : α → List Char → Prop) (x : Scan α) : Prop :=
  ∀ s, Tallies stray s (x.run s) (x.run (s ++ closing))

/-- Not astray at all. -/
def Never : α → List Char → Prop := fun _ _ => False

/-- Astray, but with all of the closing left, and nothing else. -/
def Untouched : α → List Char → Prop := fun _ rest => rest = closing

/-- Astray, but with at most `n` characters left. -/
def Within (n : Nat) : α → List Char → Prop := fun _ rest => rest.length ≤ n

variable {stray stray' : α → List Char → Prop} {after : β → List Char → Prop} {s : List Char}

theorem length_le_of_run {x : Scan α} {s rest : List Char} {r : Except Unit α}
    (h : x.run s = (r, rest)) : rest.length ≤ s.length := by
  have hsize := x.size_le s
  rwa [h] at hsize

namespace Tallies

variable {r r' : Except Unit α × List Char}

theorem mono (h : Tallies stray s r r') (hstray : ∀ a rest, stray a rest → stray' a rest) :
    Tallies stray' s r r' := by
  cases h with
  | same suffix => exact .same suffix
  | swallowed comment => exact .swallowed comment
  | refused => exact .refused
  | strayed astray => exact .strayed (hstray _ _ astray)

/-- A step leaves an end of its text. -/
theorem suffix {a : α} {rest : List Char} (h : Tallies stray s (.ok a, rest) r') : rest <:+ s := by
  cases h with
  | same suffix => exact suffix
  | swallowed => exact List.nil_suffix

/-- Runs that tally on an end of a text tally on the text. -/
theorem of_suffix {s' : List Char} (h : Tallies stray s' r r') (hs : s' <:+ s) :
    Tallies stray s r r' := by
  cases h with
  | same suffix => exact .same (suffix.trans hs)
  | swallowed comment => exact .swallowed (comment.of_suffix hs)
  | refused => exact .refused
  | strayed astray => exact .strayed astray

theorem of_refused {rest : List Char} (h : ∀ a left, r' = (.ok a, left) → stray a left) :
    Tallies stray s (.error (), rest) r' := by
  rcases r' with ⟨⟨⟩ | a, left⟩
  · exact .refused
  · exact .strayed (h a left rfl)

/-- Where a comment has taken the closing in, both runs go on alike. -/
theorem of_swallowed (comment : MayEndInComment s) (x : Scan α) :
    Tallies stray s (x.run []) (x.run []) := by
  have hsize := x.size_le []
  rcases hx : x.run [] with ⟨⟨⟩ | a, rest⟩
  · exact .refused
  · rw [hx] at hsize
    obtain rfl : rest = [] := List.length_eq_zero_iff.mp (Nat.le_zero.mp hsize)
    exact .swallowed comment

/-- **In a sequence, the second step goes on where the first one has left the two texts.** -/
theorem bind {x y : Scan α} {f : α → Scan β} (h : Tallies stray s (x.run s) (y.run (s ++ closing)))
    (hf : ∀ a rest, x.run s = (.ok a, rest) →
      Tallies after rest ((f a).run rest) ((f a).run (rest ++ closing)))
    (hstray : ∀ a rest b rest', stray a rest → (f a).run rest = (.ok b, rest') → after b rest') :
    Tallies after s ((x >>= f).run s) ((y >>= f).run (s ++ closing)) := by
  rw [Consumer.run_bind, Consumer.run_bind]
  generalize hx : x.run s = r at h
  generalize y.run (s ++ closing) = r' at h
  cases h with
  | same suffix => exact (hf _ _ hx).of_suffix suffix
  | swallowed comment => exact of_swallowed comment _
  | refused => exact .refused
  | @strayed a rest rest' astray =>
    exact of_refused fun b left hrun => hstray a rest' b left astray hrun

theorem bind_of_never {x y : Scan α} {f : α → Scan β}
    (h : Tallies Never s (x.run s) (y.run (s ++ closing)))
    (hf : ∀ a rest, x.run s = (.ok a, rest) →
      Tallies after rest ((f a).run rest) ((f a).run (rest ++ closing))) :
    Tallies after s ((x >>= f).run s) ((y >>= f).run (s ++ closing)) :=
  h.bind hf fun _ _ _ _ => False.elim

/-- What is left once a step has gone astray, the next ones only make shorter. -/
theorem bind_within {n : Nat} {x y : Scan α} {f : α → Scan β}
    (h : Tallies (Within n) s (x.run s) (y.run (s ++ closing)))
    (hf : ∀ a rest, x.run s = (.ok a, rest) →
      Tallies (Within n) rest ((f a).run rest) ((f a).run (rest ++ closing))) :
    Tallies (Within n) s ((x >>= f).run s) ((y >>= f).run (s ++ closing)) :=
  h.bind hf fun _ _ _ _ hrest hrun => Nat.le_trans (length_le_of_run hrun) hrest

end Tallies

theorem run_ahead_bind (g : Option Char → Scan α) (s : List Char) :
    (Scan.ahead? >>= g).run s = (g s.head?).run s := rfl

namespace Steady

variable {x : Scan α} {f : α → Scan β} {n : Nat}

theorem mono (h : Steady stray x) (hstray : ∀ a rest, stray a rest → stray' a rest) :
    Steady stray' x := fun s => (h s).mono hstray

theorem of_never (h : Steady Never x) : Steady stray x := h.mono fun _ _ => False.elim

theorem bind (h : Steady stray x) (hf : ∀ a, Steady after (f a))
    (hstray : ∀ a rest b rest', stray a rest → (f a).run rest = (.ok b, rest') → after b rest') :
    Steady after (x >>= f) := fun s => (h s).bind (fun a rest _ => hf a rest) hstray

theorem bind_of_never (h : Steady Never x) (hf : ∀ a, Steady after (f a)) :
    Steady after (x >>= f) := fun s => (h s).bind_of_never fun a rest _ => hf a rest

theorem of_untouched (h : Steady Untouched x) : Steady (Within 2) x :=
  h.mono fun _ _ hrest => Nat.le_of_eq (congrArg List.length hrest)

/-- A sequence is not astray if its second step refuses the closing. -/
theorem bind_of_untouched (h : Steady Untouched x) (hf : ∀ a, Steady after (f a))
    (hclosing : ∀ a b rest, (f a).run closing ≠ (.ok b, rest)) : Steady after (x >>= f) :=
  h.bind hf fun a _ b rest hrest hrun => absurd (hrest ▸ hrun) (hclosing a b rest)

theorem bind_within (h : Steady (Within n) x) (hf : ∀ a, Steady (Within n) (f a)) :
    Steady (Within n) (x >>= f) := fun s => (h s).bind_within fun a rest _ => hf a rest

/-- A step that looks at all that is left. -/
theorem remaining_bind {g : List Char → Scan α}
    (h : ∀ s, Tallies stray s ((g s).run s) ((g (s ++ closing)).run (s ++ closing))) :
    Steady stray (Consumer.remaining >>= g) := h

/-- A step that looks at the character ahead, which is the parenthesis where the text ends. -/
theorem ahead_bind {g : Option Char → Scan α} (hsome : ∀ c s,
      Tallies stray (c :: s) ((g (some c)).run (c :: s)) ((g (some c)).run (c :: s ++ closing)))
    (hnone : Tallies stray [] ((g none).run []) ((g (some ')')).run closing)) :
    Steady stray (Scan.ahead? >>= g) := by
  intro s
  cases s with
  | nil => exact hnone
  | cons c s => exact hsome c s

/-- Taking a character that is there. -/
theorem take_cons {f : Char → Scan β} {c : Char} (h : Steady after (f c)) (s : List Char) :
    Tallies after (c :: s) ((Scan.take >>= f).run (c :: s))
      ((Scan.take >>= f).run (c :: s ++ closing)) :=
  (h s).of_suffix (List.suffix_cons c s)

end Steady

/-! ## 2. Single steps -/

theorem not_mem_append_closing {c : Char} (hs : c ∉ s) (hc : c ∉ closing) : c ∉ s ++ closing := by
  rw [List.mem_append, not_or]
  exact ⟨hs, hc⟩

theorem steady_pure (a : α) : Steady Never (pure a : Scan α) := fun _ => .same List.suffix_rfl

theorem steady_reject : Steady Never (Scan.reject : Scan α) := fun _ => .refused

theorem steady_require (a : Option α) : Steady Never (Scan.require a) := by
  cases a with
  | none => exact steady_reject
  | some a => exact steady_pure a

/-- Taking the next character goes astray where the text ends: there it takes the parenthesis. -/
theorem steady_take : Steady (Within 1) Scan.take := by
  intro s
  cases s with
  | nil => exact .strayed (Nat.le_refl _)
  | cons c s => exact .same (List.suffix_cons c s)

theorem steady_takeIf {c : Char} (hc : c ≠ ')') : Steady Never (Scan.takeIf c) := by
  intro s
  cases s with
  | nil =>
    have hrun : (Scan.takeIf c).run closing = (.ok false, closing) := if_neg (Ne.symm hc)
    rw [List.nil_append, hrun]
    exact .same List.suffix_rfl
  | cons d s =>
    by_cases hd : d = c
    · have hrun (rest : List Char) : (Scan.takeIf c).run (d :: rest) = (.ok true, rest) := if_pos hd
      rw [List.cons_append, hrun, hrun]
      exact .same (List.suffix_cons d s)
    · have hrun (rest : List Char) : (Scan.takeIf c).run (d :: rest) = (.ok false, d :: rest) :=
        if_neg hd
      rw [List.cons_append, hrun, hrun]
      exact .same List.suffix_rfl

/-- A word without the parenthesis is ahead with the closing exactly if it is without. -/
theorem isPrefixOf_append_closing {word : List Char} (hword : ')' ∉ word) (s : List Char) :
    word.isPrefixOf (s ++ closing) = word.isPrefixOf s := by
  induction word generalizing s with
  | nil => simp
  | cons c word ih =>
    cases s with
    | nil =>
      have hc : c ≠ ')' := (List.ne_of_not_mem_cons hword).symm
      simp [closing, List.isPrefixOf, hc]
    | cons d s =>
      simp only [List.cons_append, List.isPrefixOf, ih (List.not_mem_of_not_mem_cons hword)]

theorem steady_takeAll {word : List Char} (hword : ')' ∉ word) :
    Steady Never (Scan.takeAll word) := by
  intro s
  simp only [Scan.takeAll, isPrefixOf_append_closing hword]
  by_cases h : word.isPrefixOf s = true
  · have hlength : word.length ≤ s.length := (List.isPrefixOf_iff_prefix.mp h).length_le
    rw [if_pos h, if_pos h, List.drop_append_of_le_length hlength]
    exact .same (List.drop_suffix _ _)
  · rw [if_neg h, if_neg h]
    exact .same List.suffix_rfl

theorem takeWhile_append_closing {p : Char → Bool} (hp : p ')' = false) (s : List Char) :
    (s ++ closing).takeWhile p = s.takeWhile p ∧
      (s ++ closing).dropWhile p = s.dropWhile p ++ closing := by
  induction s with
  | nil => simp [closing, hp]
  | cons c s ih =>
    cases hc : p c with
    | true => simpa [hc] using ih
    | false => simp [hc]

theorem steady_takeWhile {p : Char → Bool} (hp : p ')' = false) :
    Steady Never (Scan.takeWhile p) := by
  intro s
  obtain ⟨htake, hdrop⟩ := takeWhile_append_closing hp s
  show Tallies _ _ _ (.ok ((s ++ closing).takeWhile p), (s ++ closing).dropWhile p)
  rw [htake, hdrop]
  exact .same (List.dropWhile_suffix p)

theorem head_append_closing {c : Char} (hc : c ≠ ')') (s : List Char) :
    (s ++ closing).head? = some c ↔ s.head? = some c := by
  cases s with
  | nil => simp [closing, hc.symm]
  | cons d s => exact Iff.rfl

/-! ## 3. What does not count -/

theorem afterLine_suffix (s : List Char) : afterLine s <:+ s :=
  (List.drop_suffix 1 _).trans (List.dropWhile_suffix _)

/-- The closing is behind the line that is ahead, unless the text ends in this line. -/
theorem afterLine_append_closing (s : List Char) :
    afterLine (s ++ closing) = afterLine s ++ closing ∨
      '\n' ∉ s ∧ afterLine s = [] ∧ afterLine (s ++ closing) = [] := by
  induction s with
  | nil => exact .inr ⟨List.not_mem_nil, rfl, rfl⟩
  | cons c s ih =>
    by_cases hc : c = '\n'
    · refine .inl ?_
      simp [afterLine, hc]
    · have hline (rest : List Char) : afterLine (c :: rest) = afterLine rest := by
        simp [afterLine, hc]
      rw [List.cons_append, hline, hline, List.mem_cons, not_or]
      exact ih.imp_right fun h => ⟨⟨Ne.symm hc, h.1⟩, h.2⟩

theorem skipVerbose_suffix (s : List Char) : skipVerbose s <:+ s := by
  fun_induction skipVerbose s with
  | case1 => exact List.suffix_rfl
  | case2 c rest _ ih => exact ih.trans (List.suffix_cons c rest)
  | case3 rest _ ih =>
    exact (ih.trans (afterLine_suffix rest)).trans (List.suffix_cons '#' rest)
  | case4 => exact List.suffix_rfl

theorem skipSpace_suffix (verbose : Bool) (s : List Char) : skipSpace verbose s <:+ s := by
  cases verbose with
  | false => exact List.suffix_rfl
  | true => exact skipVerbose_suffix s

theorem skipVerbose_append_closing (s : List Char) :
    skipVerbose (s ++ closing) = skipVerbose s ++ closing ∨
      MayEndInComment s ∧ skipVerbose s = [] ∧ skipVerbose (s ++ closing) = [] := by
  fun_induction skipVerbose s with
  | case1 =>
    refine .inl ?_
    rw [List.nil_append, closing, skipVerbose, if_neg (by decide), if_neg (by decide)]
  | case2 c rest hspace ih =>
    rw [List.cons_append, skipVerbose, if_pos hspace]
    exact ih.imp_right fun h => ⟨h.1.of_suffix (List.suffix_cons c rest), h.2⟩
  | case3 rest hspace ih =>
    rw [List.cons_append, skipVerbose, if_neg hspace, if_pos rfl]
    rcases afterLine_append_closing rest with hline | ⟨hfeed, hline, hline'⟩
    · rw [hline]
      have hsuffix := (afterLine_suffix rest).trans (List.suffix_cons '#' rest)
      exact ih.imp_right fun h => ⟨h.1.of_suffix hsuffix, h.2⟩
    · refine .inr ⟨⟨[], rest, rfl, hfeed⟩, ?_, ?_⟩
      · rw [hline, skipVerbose]
      · rw [hline', skipVerbose]
  | case4 c rest hspace hcomment =>
    rw [List.cons_append, skipVerbose, if_neg hspace, if_neg hcomment]
    exact .inl rfl

/-- **What does not count ends before the closing**, unless a comment takes it in. -/
theorem skipSpace_append_closing (verbose : Bool) (s : List Char) :
    skipSpace verbose (s ++ closing) = skipSpace verbose s ++ closing ∨
      MayEndInComment s ∧ skipSpace verbose s = [] ∧ skipSpace verbose (s ++ closing) = [] := by
  cases verbose with
  | false => exact .inl rfl
  | true => exact skipVerbose_append_closing s

theorem steady_space (verbose : Bool) : Steady Never (Scan.space verbose) := by
  intro s
  show Tallies _ s (.ok (), skipSpace verbose s) (.ok (), skipSpace verbose (s ++ closing))
  rcases skipSpace_append_closing verbose s with h | ⟨hcomment, h, h'⟩
  · rw [h]
    exact .same (skipSpace_suffix verbose s)
  · rw [h, h']
    exact .swallowed hcomment

theorem takeSymbol_eq (verbose : Bool) :
    Scan.takeSymbol verbose = Scan.space verbose >>= fun _ => Scan.take := by
  refine Consumer.ext_run fun s => ?_
  rw [Consumer.run_bind]
  show _ = Scan.take.run (skipSpace verbose s)
  rw [Scan.takeSymbol]
  dsimp only
  cases skipSpace verbose s <;> rfl

theorem steady_takeSymbol (verbose : Bool) : Steady (Within 1) (Scan.takeSymbol verbose) := by
  rw [takeSymbol_eq]
  exact (steady_space verbose).bind_of_never fun _ => steady_take

/-- Demanding more goes astray where the text ends: there the closing is more. -/
theorem steady_more (verbose : Bool) : Steady Untouched (Scan.more verbose) := by
  refine (steady_space verbose).bind_of_never fun _ => fun s => ?_
  cases s with
  | nil => exact .strayed rfl
  | cons c s => exact .same List.suffix_rfl

/-! ## 4. Loops -/

/-- A step in at most so many rounds, each of which takes a character. -/
structure Paced (x : Nat → Scan α) : Prop where
  nil (n n' : Nat) : (x n).run [] = (x n').run []
  cons {n n' : Nat} {s : List Char} (c : Char)
    (h : ∀ rest : List Char, rest.length ≤ s.length → (x n).run rest = (x n').run rest) :
    (x (n + 1)).run (c :: s) = (x (n' + 1)).run (c :: s)

/-- It has no use for more rounds than there are characters. -/
theorem Paced.run_eq {x : Nat → Scan α} (hx : Paced x) {n n' : Nat} {s : List Char}
    (hn : s.length ≤ n) (hn' : s.length ≤ n') : (x n).run s = (x n').run s := by
  induction n generalizing n' s with
  | zero =>
    obtain rfl : s = [] := List.length_eq_zero_iff.mp (Nat.le_zero.mp hn)
    exact hx.nil 0 n'
  | succ n ih =>
    cases s with
    | nil => exact hx.nil (n + 1) n'
    | cons c s =>
      obtain ⟨n', rfl⟩ := Nat.exists_eq_add_of_le' (Nat.le_trans (Nat.succ_pos _) hn')
      refine hx.cons c fun rest hrest => ?_
      exact ih (Nat.le_trans hrest (Nat.le_of_succ_le_succ hn))
        (Nat.le_trans hrest (Nat.le_of_succ_le_succ hn'))

/-- So the rounds that the closing adds make no difference. -/
theorem Paced.tallies {x : Nat → Scan α} (hx : Paced x) (h : ∀ n, Steady stray (x n))
    (s : List Char) :
    Tallies stray s ((x s.length).run s) ((x (s ++ closing).length).run (s ++ closing)) := by
  have hlength : s.length ≤ (s ++ closing).length := by
    rw [List.length_append]
    exact Nat.le_add_right _ _
  rw [hx.run_eq (Nat.le_refl _) hlength]
  exact h _ s

section Loops

variable {take : Scan α} {n : Nat}

/-- The induction is on the length of the text, which every round lowers. -/
theorem Steady.items (advances : take.Advances) {step : α → Scan (Option β)}
    (htake : Steady (Within n) take) (hstep : ∀ a, Steady (Within n) (step a)) :
    Steady (Within n) (Consumer.items take advances step) := by
  have hround : Steady (Within n) (Consumer.bind take step) := htake.bind_within hstep
  intro s
  induction hlength : s.length using Nat.strongRecOn generalizing s with
  | _ length ih =>
    rw [Consumer.items, Consumer.many_eq]
    refine (hround s).bind_within fun b rest hrun => ?_
    cases b with
    | none => exact (steady_pure []).of_never rest
    | some b =>
      have hshorter := Consumer.bind_yields advances step s b rest hrun
      have hothers := ih _ (hlength ▸ hshorter) rest rfl
      exact hothers.bind_within fun bs left _ => (steady_pure (b :: bs)).of_never left

/-- Astray in the middle of a loop, up to two characters are left, and at its end at most one. -/
def Round {γ : Type} : γ ⊕ β → List Char → Prop
  | .inl _ => fun rest => rest.length ≤ 2
  | .inr _ => fun rest => rest.length ≤ 1

/-- A loop that goes astray takes at least the parenthesis of the closing. The induction is on the
    length of the text, which every round lowers. -/
theorem Steady.loop {γ : Type} (advances : take.Advances) {step : γ → α → Scan (γ ⊕ β)}
    (htake : Steady (Within 1) take) (hstep : ∀ state a, Steady Round (step state a))
    (state : γ) : Steady (Within 1) (Consumer.loop take advances step state) := by
  intro s
  induction hlength : s.length using Nat.strongRecOn generalizing s state with
  | _ length ih =>
    rw [Consumer.loop_eq]
    refine (htake s).bind_within fun a rest hrun => ?_
    have hshorter := advances s a rest hrun
    refine (hstep state a rest).bind (fun outcome left hrun => ?_)
      fun outcome _ _ _ hrest hrun => ?_
    · cases outcome with
      | inl state' =>
        have hleft := Nat.lt_of_le_of_lt (length_le_of_run hrun) hshorter
        exact ih _ (hlength ▸ hleft) state' left rfl
      | inr b => exact (steady_pure b).of_never left
    · cases outcome with
      | inl state' =>
        have hleft := Consumer.loop_advances advances step state' _ _ _ hrun
        exact Nat.le_of_lt_succ (Nat.lt_of_lt_of_le hleft hrest)
      | inr b =>
        cases hrun
        exact hrest

end Loops

end Verdict.Pattern
