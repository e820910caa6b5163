import Verdict.Proofs.Reading.Derivation

/-!
# Reading from a source that breaks down

A source that breaks down is held against one with the same tokens that does not. Both runs go on
side by side until a call fails, and every step hands the error of such a call on.

* `TokenSource.breaking`: the tokens of a document, with a number of calls that still succeed;
* `Takes`: how a step that takes certain tokens runs on both sources, and how many calls the second
  one must have left for it;
* `Endures`: a step all of whose runs are such, with bounds on the calls and the tokens -- kept by
  sequences (**`Endures.bind`**) and by loops (**`endures_many`**);
* `endures_gather`, `endures_text`, `endures_expectClose`: the steps of the source;
* **`endures_element`**: elements, if their leaves do;
* **`read_breakdown`**: whole conditions.
-/

namespace Verdict

open Consumer Registry

/-- The unread tokens of a source that breaks down with `error` after so many more calls. -/
def TokenSource.breaking (tokens : List Token) (allowance : Nat) (error : DocumentError) :
    TokenSource := ⟨tokens, some ⟨allowance, error⟩⟩

/-- The error hands on that the source broke down. -/
def ReadError.Reports (error : DocumentError) : ReadError → Prop
  | .document e => e = error
  | .leaf _ (.document e) => e = error
  | _ => False

theorem ReadError.reports_document (error : DocumentError) :
    ReadError.Reports error (.document error) := rfl

namespace TokenReader

variable {ε ε' α β : Type} {reports : DocumentError → ε → Prop}

/-! ## 1. Runs side by side -/

/-- The step fails on a source that breaks down, with an error that reports it. -/
def Breaks (reports : DocumentError → ε → Prop) (x : TokenReader ε α) (tokens : List Token)
    (allowance : Nat) (error : DocumentError) : Prop :=
  ∃ e s, x.run (.breaking tokens allowance error) = (.error e, s) ∧ reports error e

/-- The step answers `a` and takes the tokens `taken`, one with every call. So it does on a source
    that breaks down, as long as `need` calls are left; with fewer of them it breaks. -/
structure Takes (reports : DocumentError → ε → Prop) (x : TokenReader ε α) (taken rest : List Token)
    (a : α) (need : Nat) : Prop where
  plain : x.run (.ofTokens (taken ++ rest)) = (.ok a, .ofTokens rest)
  covers : taken.length ≤ need
  enough : ∀ allowance error, need ≤ allowance → x.run (.breaking (taken ++ rest) allowance error) =
    (.ok a, .breaking rest (allowance - taken.length) error)
  tooFew : ∀ allowance error, allowance < need → Breaks reports x (taken ++ rest) allowance error

/-- The runs of a step on these tokens: an answer takes at least `least` of them, and needs at most
    `ahead` calls more than it takes tokens; an error is met on a source that breaks down too,
    unless the step breaks before it. -/
structure EnduresOn (reports : DocumentError → ε → Prop) (ahead least : Nat) (x : TokenReader ε α)
    (tokens : List Token) : Prop where
  answers : ∀ a s, x.run (.ofTokens tokens) = (.ok a, s) → ∃ taken rest need,
    tokens = taken ++ rest ∧ s = .ofTokens rest ∧ Takes reports x taken rest a need ∧
      need ≤ taken.length + ahead ∧ least ≤ taken.length
  fails : ∀ e s, x.run (.ofTokens tokens) = (.error e, s) → ∀ allowance error, ∃ e' s',
    x.run (.breaking tokens allowance error) = (.error e', s') ∧ (e' = e ∨ reports error e')

/-- The runs of a step on all tokens. -/
def Endures (reports : DocumentError → ε → Prop) (ahead least : Nat) (x : TokenReader ε α) : Prop :=
  ∀ tokens, EnduresOn reports ahead least x tokens

variable {ahead ahead' least least' : Nat} {x : TokenReader ε α} {f : α → TokenReader ε β}
  {tokens : List Token}

theorem EnduresOn.mono (h : EnduresOn reports ahead least x tokens) (hahead : ahead ≤ ahead')
    (hleast : least' ≤ least) : EnduresOn reports ahead' least' x tokens := by
  refine ⟨fun a s hrun => ?_, h.fails⟩
  obtain ⟨taken, rest, need, htokens, hs, htakes, hneed, hlength⟩ := h.answers a s hrun
  exact ⟨taken, rest, need, htokens, hs, htakes, by omega, by omega⟩

theorem Endures.mono (h : Endures reports ahead least x) (hahead : ahead ≤ ahead')
    (hleast : least' ≤ least) : Endures reports ahead' least' x :=
  fun tokens => (h tokens).mono hahead hleast

/-- A step that answers without a call. -/
theorem takes_of_run {a : α} (h : ∀ s, x.run s = (.ok a, s)) (rest : List Token) :
    Takes reports x [] rest a 0 where
  plain := h _
  covers := Nat.le_refl 0
  enough _ _ _ := h _
  tooFew _ _ hfew := absurd hfew (Nat.not_lt_zero _)

theorem endures_of_run {a : α} (h : ∀ s, x.run s = (.ok a, s)) : Endures reports 0 0 x := by
  intro tokens
  refine ⟨fun a' s hrun => ?_, fun e s hrun => ?_⟩
  · cases (h _).symm.trans hrun
    exact ⟨[], tokens, 0, rfl, rfl, takes_of_run h tokens, Nat.le_refl 0, Nat.le_refl 0⟩
  · cases (h _).symm.trans hrun

theorem endures_pure (a : α) : Endures reports 0 0 (pure a : TokenReader ε α) :=
  endures_of_run fun _ => rfl

/-- A step that fails without a call. -/
theorem endures_fail (e : ε) : Endures reports ahead least (Consumer.fail e : TokenReader ε α) := by
  intro tokens
  refine ⟨fun a s hrun => ?_, fun e' s hrun allowance error => ?_⟩
  · cases hrun
  · cases hrun
    exact ⟨e, _, rfl, .inl rfl⟩

theorem endures_ofExcept (r : Except ε α) :
    Endures reports 0 0 (Consumer.ofExcept r : TokenReader ε α) := by
  cases r with
  | error e => exact endures_fail e
  | ok a => exact endures_pure a

/-! ## 2. Sequences and loops -/

theorem Breaks.bind {allowance : Nat} {error : DocumentError}
    (h : Breaks reports x tokens allowance error) (f : α → TokenReader ε β) :
    Breaks reports (x >>= f) tokens allowance error := by
  obtain ⟨e, s, hrun, he⟩ := h
  exact ⟨e, s, run_bind_of_error hrun f, he⟩

/-- One step after another needs as many calls as the first one, and as the second one behind the
    tokens that the first one takes. -/
theorem Takes.bind {taken taken' rest : List Token} {a : α} {b : β} {need need' : Nat}
    (hx : Takes reports x taken (taken' ++ rest) a need)
    (hf : Takes reports (f a) taken' rest b need') :
    Takes reports (x >>= f) (taken ++ taken') rest b (max need (taken.length + need')) where
  plain := by rw [List.append_assoc, run_bind_of_ok hx.plain, hf.plain]
  covers := by
    have hcovers := hf.covers
    rw [List.length_append]
    omega
  enough allowance error hneed := by
    rw [List.append_assoc, run_bind_of_ok (hx.enough allowance error (by omega)),
      hf.enough _ error (by omega), List.length_append, Nat.sub_sub]
  tooFew allowance error hfew := by
    rw [List.append_assoc]
    by_cases hneed : allowance < need
    · exact (hx.tooFew allowance error hneed).bind f
    · have hcovers := hx.covers
      have hleft : allowance - taken.length < need' := by omega
      obtain ⟨e, s, hrun, he⟩ := hf.tooFew _ error hleft
      have hfirst := hx.enough allowance error (by omega)
      exact ⟨e, s, (run_bind_of_ok hfirst f).trans hrun, he⟩

/-- **A sequence endures if both of its steps do**, and the second one takes the tokens for which
    the first one looks ahead. -/
theorem EnduresOn.bind (hx : EnduresOn reports ahead least x tokens)
    (hf : ∀ a rest, rest.length + least ≤ tokens.length →
      EnduresOn reports ahead' least' (f a) rest) (hahead : ahead ≤ least' + ahead') :
    EnduresOn reports ahead' (least + least') (x >>= f) tokens := by
  have hbehind : ∀ {a s}, x.run (.ofTokens tokens) = (.ok a, s) → ∃ taken rest need,
      tokens = taken ++ rest ∧ s = .ofTokens rest ∧ Takes reports x taken rest a need ∧
        need ≤ taken.length + ahead ∧ least ≤ taken.length ∧
        EnduresOn reports ahead' least' (f a) rest := by
    intro a s hrun
    obtain ⟨taken, rest, need, htokens, hs, htakes, hneed, hleast⟩ := hx.answers a s hrun
    have hlength : rest.length + least ≤ tokens.length := by
      rw [htokens, List.length_append]
      omega
    exact ⟨taken, rest, need, htokens, hs, htakes, hneed, hleast, hf a rest hlength⟩
  refine ⟨fun b s hrun => ?_, fun e s hrun allowance error => ?_⟩
  · obtain ⟨a, s₁, hfirst, hsecond⟩ := run_bind_eq_ok_iff.mp hrun
    obtain ⟨taken, _, need, rfl, rfl, htakes, hneed, hleast, hfa⟩ := hbehind hfirst
    obtain ⟨taken', rest, need', rfl, rfl, htakes', hneed', hleast'⟩ := hfa.answers b s hsecond
    refine ⟨taken ++ taken', rest, _, (List.append_assoc _ _ _).symm, rfl, htakes.bind htakes',
      ?_, ?_⟩
    · rw [List.length_append]
      omega
    · rw [List.length_append]
      omega
  · cases hfirst : x.run (.ofTokens tokens) with
    | mk outcome s₁ =>
      cases outcome with
      | error e' =>
        cases (run_bind_of_error hfirst f).symm.trans hrun
        obtain ⟨e', s', hbroken, he'⟩ := hx.fails e s hfirst allowance error
        exact ⟨e', s', run_bind_of_error hbroken f, he'⟩
      | ok a =>
        obtain ⟨taken, rest, need, rfl, rfl, htakes, -, -, hfa⟩ := hbehind hfirst
        rw [run_bind_of_ok hfirst] at hrun
        by_cases hneed : allowance < need
        · obtain ⟨e', s', hbroken, he'⟩ := (htakes.tooFew allowance error hneed).bind f
          exact ⟨e', s', hbroken, .inr he'⟩
        · have hbroken := htakes.enough allowance error (Nat.le_of_not_lt hneed)
          obtain ⟨e', s', hrun', he'⟩ := hfa.fails e s hrun (allowance - taken.length) error
          exact ⟨e', s', (run_bind_of_ok hbroken f).trans hrun', he'⟩

theorem Endures.bind (hx : Endures reports ahead least x) (least' : Nat)
    (hf : ∀ a, Endures reports ahead' least' (f a)) (hahead : ahead ≤ least' + ahead') :
    Endures reports ahead' (least + least') (x >>= f) :=
  fun tokens => (hx tokens).bind (fun a rest _ => hf a rest) hahead

/-- A step whose answer is only carried on. -/
theorem Endures.map (hx : Endures reports ahead least x) (g : α → β) :
    Endures reports ahead least (x >>= fun a => pure (g a)) :=
  hx.bind 0 (fun a => (endures_pure (g a)).mono (Nat.zero_le _) (Nat.le_refl 0))
    (Nat.le_add_left _ _)

theorem Endures.mapError {reports' : DocumentError → ε' → Prop} {g : ε → ε'}
    (hg : ∀ error e, reports error e → reports' error (g e)) (h : Endures reports ahead least x) :
    Endures reports' ahead least (Consumer.mapError g x) := by
  have hbroken : ∀ {s e s'}, x.run s = (.error e, s') →
      (Consumer.mapError g x).run s = (.error (g e), s') := by
    intro s e s' hrun
    rw [run_mapError, hrun]
  intro tokens
  refine ⟨fun a s hrun => ?_, fun e s hrun allowance error => ?_⟩
  · obtain ⟨taken, rest, need, rfl, rfl, htakes, hneed, hleast⟩ :=
      (h tokens).answers a s (run_mapError_eq_ok_iff.mp hrun)
    refine ⟨taken, rest, need, rfl, rfl, ⟨hrun, htakes.covers, ?_, ?_⟩, hneed, hleast⟩
    · exact fun allowance error hle =>
        run_mapError_eq_ok_iff.mpr (htakes.enough allowance error hle)
    · intro allowance error hlt
      obtain ⟨e, s, hrun', he⟩ := htakes.tooFew allowance error hlt
      exact ⟨g e, s, hbroken hrun', hg error e he⟩
  · cases hplain : x.run (.ofTokens tokens) with
    | mk outcome s₁ =>
      cases outcome with
      | ok a => cases (run_mapError_eq_ok_iff.mpr hplain).symm.trans hrun
      | error e₁ =>
        cases (hbroken hplain).symm.trans hrun
        obtain ⟨e', s', hrun', he'⟩ := (h tokens).fails e₁ _ hplain allowance error
        exact ⟨g e', s', hbroken hrun', he'.imp (congrArg g) (hg error e')⟩

/-- **A loop endures if its rounds do.** The induction is on the number of tokens, which every round
    lowers. -/
theorem endures_many {item : TokenReader ε (Option β)} (hyields : item.Yields)
    (h : Endures reports 0 1 item) : Endures reports 0 1 (many item hyields) := by
  intro tokens
  induction hn : tokens.length using Nat.strongRecOn generalizing tokens with
  | _ n ih =>
    have hround : ∀ found rest, rest.length + 1 ≤ tokens.length →
        EnduresOn reports 0 0 (match found with
          | none => pure []
          | some b => many item hyields >>= fun bs => pure (b :: bs)) rest := by
      intro found rest hrest
      cases found with
      | none => exact endures_pure [] rest
      | some b =>
        have hothers : EnduresOn reports 0 1 (many item hyields) rest :=
          ih rest.length (by omega) rest rfl
        exact (hothers.bind (fun bs rest' _ => endures_pure (b :: bs) rest') (Nat.le_refl 0)).mono
          (Nat.le_refl 0) (Nat.zero_le _)
    rw [many_eq]
    exact (h tokens).bind hround (Nat.le_refl 0)

/-! ## 3. The steps of a source -/

section Steps

variable {rest : List Token} {token : Token} {allowance : Nat} {error : DocumentError}

theorem run_gather_breaking_zero (f : Token → Option α) :
    (gather f).run (.breaking tokens 0 error) = (.error error, .breaking tokens 0 error) := by
  show TokenSource.gather f _ = _
  rw [TokenSource.gather]
  rfl

/-- Gathering ends at a token that it looks at and leaves, or at the end of the tokens. -/
theorem run_gather_breaking_refused {f : Token → Option α}
    (h : ∀ token, tokens.head? = some token → f token = none) :
    (gather f).run (.breaking tokens (allowance + 1) error) =
      (.ok [], .breaking tokens (allowance + 1) error) := by
  show TokenSource.gather f _ = _
  rw [TokenSource.gather]
  cases tokens with
  | nil => rfl
  | cons token rest =>
    have htoken : f token = none := h token rfl
    simp only [TokenSource.breaking, TokenSource.error?, htoken]

theorem run_gather_breaking_cons {f : Token → Option α} {a : α} (h : f token = some a) :
    (gather f).run (.breaking (token :: rest) (allowance + 1) error) =
      match (gather f).run (.breaking rest allowance error) with
      | (.ok as, s) => (.ok (a :: as), s)
      | (.error e, s) => (.error e, s) := by
  show TokenSource.gather f _ = _
  rw [TokenSource.gather]
  simp only [TokenSource.breaking, TokenSource.error?, h]
  rfl

/-- **Gathering looks at the token behind those that it takes**, and needs a call left for it. -/
theorem run_gather_breaking (f : Token → Option α) (tokens : List Token) (allowance : Nat)
    (error : DocumentError) :
    let taken := tokens.takeWhile fun t => (f t).isSome
    (gather f).run (.breaking tokens allowance error) =
      if allowance ≤ taken.length then (.error error, .breaking (tokens.drop allowance) 0 error)
      else (.ok (taken.filterMap f), .breaking (tokens.dropWhile fun t => (f t).isSome)
        (allowance - taken.length) error) := by
  induction tokens generalizing allowance with
  | nil =>
    cases allowance with
    | zero => exact run_gather_breaking_zero f
    | succ allowance => exact run_gather_breaking_refused fun _ h => by cases h
  | cons token rest ih =>
    cases allowance with
    | zero => exact run_gather_breaking_zero f
    | succ allowance =>
      cases h : f token with
      | none =>
        have hrefused : ∀ t, (token :: rest).head? = some t → f t = none := by
          intro t ht
          exact Option.some.inj ht ▸ h
        rw [run_gather_breaking_refused hrefused, List.takeWhile_cons_of_neg (by simp [h]),
          List.dropWhile_cons_of_neg (by simp [h])]
        rfl
      | some a =>
        rw [run_gather_breaking_cons h, ih, List.takeWhile_cons_of_pos (by simp [h]),
          List.dropWhile_cons_of_pos (by simp [h])]
        by_cases hfew : allowance ≤ (rest.takeWhile fun t => (f t).isSome).length
        · simp [hfew]
        · simp [hfew, h]

theorem endures_gather (f : Token → Option α) :
    Endures (fun error e => e = error) 1 0 (gather f) := by
  intro tokens
  have hsplit := List.takeWhile_append_dropWhile (p := fun t => (f t).isSome) (l := tokens)
  have hplain := run_gather f tokens
  have hbreaking := run_gather_breaking f tokens
  dsimp only at hbreaking
  generalize tokens.takeWhile (fun t => (f t).isSome) = taken at *
  generalize tokens.dropWhile (fun t => (f t).isSome) = rest at *
  subst hsplit
  refine ⟨fun a s hrun => ?_, fun e s hrun => ?_⟩
  · cases hplain.symm.trans hrun
    refine ⟨taken, rest, taken.length + 1, rfl, rfl, ⟨hplain, Nat.le_succ _, ?_, ?_⟩,
      Nat.le_refl _, Nat.zero_le _⟩
    · intro allowance error hle
      rw [hbreaking, if_neg (by omega)]
    · intro allowance error hlt
      exact ⟨error, _, (hbreaking _ _).trans (if_pos (Nat.le_of_lt_succ hlt)), rfl⟩
  · cases hplain.symm.trans hrun

theorem endures_peek : Endures (fun error e => e = error) 1 0 peek := by
  intro tokens
  refine ⟨fun a s hrun => ?_, fun e s hrun => ?_⟩
  · cases hrun
    refine ⟨[], tokens, 1, rfl, rfl, ⟨rfl, Nat.zero_le 1, fun allowance error hle => ?_,
      fun allowance error hlt => ?_⟩, Nat.le_refl 1, Nat.le_refl 0⟩
    · obtain ⟨allowance, rfl⟩ := Nat.exists_eq_add_of_le' hle
      rfl
    · obtain rfl : allowance = 0 := by omega
      exact ⟨error, _, rfl, rfl⟩
  · cases hrun

/-- Where a token is ahead, it is taken with one call. -/
theorem endures_next_cons {g : DocumentError → ε} (hg : ∀ error, reports error (g error))
    (token : Token) (rest : List Token) :
    EnduresOn reports 0 1 (Consumer.mapError g next) (token :: rest) := by
  refine ⟨fun a s hrun => ?_, fun e s hrun => ?_⟩
  · cases hrun
    refine ⟨[token], rest, 1, rfl, rfl, ⟨rfl, Nat.le_refl 1, fun allowance error hle => ?_,
      fun allowance error hlt => ?_⟩, Nat.le_refl 1, Nat.le_refl 1⟩
    · obtain ⟨left, rfl⟩ := Nat.exists_eq_add_of_le' hle
      rfl
    · obtain rfl : allowance = 0 := by omega
      exact ⟨g error, _, rfl, hg error⟩
  · cases hrun

/-- Taking the next token, where one is due. At the end of the tokens the call succeeds, and what is
    due is missing. -/
theorem endures_next_bind {g : DocumentError → ε} (hg : ∀ error, reports error (g error))
    (least : Nat)
    {f : Option Token → TokenReader ε β} (hnone : ∃ e, f none = Consumer.fail e)
    (hsome : ∀ token, Endures reports ahead least (f (some token))) :
    Endures reports ahead (1 + least) (Consumer.mapError g next >>= f) := by
  obtain ⟨e, hnone⟩ := hnone
  have hf : ∀ found, Endures reports ahead least (f found) := by
    intro found
    cases found with
    | none => exact hnone ▸ endures_fail e
    | some token => exact hsome token
  intro tokens
  cases tokens with
  | cons token rest =>
    exact (endures_next_cons hg token rest).bind (fun found rest' _ => hf found rest')
      (Nat.zero_le _)
  | nil =>
    have hend : ∀ {s : TokenSource}, (Consumer.mapError g next).run s = (.ok none, s.advance) →
        (Consumer.mapError g next >>= f).run s = (.error e, s.advance) := by
      intro s hs
      rw [run_bind_of_ok hs, hnone]
      rfl
    refine ⟨fun a s hrun => ?_, fun e' s hrun allowance error => ?_⟩
    · cases (hend rfl).symm.trans hrun
    · cases (hend rfl).symm.trans hrun
      cases allowance with
      | zero => exact ⟨g error, _, rfl, .inr (hg error)⟩
      | succ left => exact ⟨e, _, hend rfl, .inl rfl⟩

theorem endures_skipBlankText : Endures (fun error e => e = error) 1 0 skipBlankText :=
  (endures_gather _).map fun _ => ()

theorem endures_readText : Endures (fun error e => e = error) 1 0 readText :=
  (endures_gather _).map String.join

/-- The text of a leaf looks at the token behind it: where a source breaks down there, the text is
    not cut short. -/
theorem endures_text : Endures (fun error e => e = error) 1 0 LeafElement.text := by
  refine endures_peek.bind 0 (fun ahead => ?_) (Nat.le_refl 1)
  have hnone : Endures (fun error e => e = error) 1 0
      (pure none : TokenReader DocumentError (Option String)) :=
    (endures_pure none).mono (Nat.zero_le 1) (Nat.le_refl 0)
  rcases ahead with _ | ⟨name, attributes⟩ | content | _
  · exact hnone
  · exact hnone
  · exact endures_readText.map some
  · exact hnone

/-- The end of an element is the last token that is looked at. -/
theorem endures_expectClose (tag : String) :
    Endures (fun error e => e = error) 0 1 (expectClose tag) := by
  have hnext : ∀ f : Option Token → TokenReader DocumentError Unit,
      next >>= f = Consumer.mapError id next >>= f := by
    intro f
    refine ext_run fun s => ?_
    rw [run_bind, run_bind, run_mapError]
    rcases next.run s with ⟨_ | _, _⟩ <;> rfl
  refine endures_skipBlankText.bind 1 (fun _ => ?_) (Nat.le_refl 1)
  rw [hnext]
  refine endures_next_bind ?_ 0 ⟨.unexpectedEnd s!"</{tag}>", rfl⟩ fun token => ?_
  · exact fun _ => rfl
  · cases token with
    | opening name attributes => exact endures_fail _
    | text content => exact endures_fail _
    | closing => exact endures_pure ()

theorem endures_nextOr (expected : String) : Endures ReadError.Reports 0 1 (nextOr expected) := by
  let f : Option Token → TokenReader ReadError Token := fun
    | none => Consumer.fail (.document (.unexpectedEnd expected))
    | some token => pure token
  have heq : nextOr expected = Consumer.mapError ReadError.document next >>= f := by
    refine ext_run fun s => ?_
    rw [run_bind, run_mapError]
    unfold nextOr
    dsimp only
    rcases next.run s with ⟨_ | _ | token, rest⟩ <;> rfl
  have hnone : ∃ e, f none = Consumer.fail e := ⟨_, rfl⟩
  have hf : ∀ token, Endures ReadError.Reports 0 0 (f (some token)) :=
    fun token => endures_pure token
  rw [heq]
  exact endures_next_bind ReadError.reports_document 0 hnone hf

end Steps

end TokenReader

open TokenReader

/-! ## 4. Elements -/

/-- A text matcher is read from its attributes and its text. -/
theorem TextMatcher.endures_readElement (e : LeafElement) :
    Endures (fun error e => e = .document error) 1 0 (readElement e) := by
  have htext : Endures (fun error e => e = .document error) 1 0
      (liftM LeafElement.text : TokenReader LeafError (Option String)) :=
    endures_text.mapError fun error e h => congrArg LeafError.document h
  refine (endures_ofExcept _).bind 0 (fun options => ?_) (Nat.zero_le _)
  refine htext.bind 0 (fun pattern => ?_) (Nat.le_refl 1)
  exact (endures_ofExcept _).mono (Nat.zero_le 1) (Nat.le_refl 0)

namespace Reader

variable {P : Type} {r : Reader P}

theorem endures_statement (tag : String) : Endures ReadError.Reports 0 0 (r.statement tag) := by
  unfold statement
  cases r.registry.find? tag with
  | none => exact endures_fail _
  | some found => exact endures_pure found

theorem endures_item {parent : String} {permitted : List String}
    {child : LeafElement → TokenReader ReadError (Condition P)}
    (hchild : ∀ e, Endures ReadError.Reports 0 1 (child e)) (token : Token) :
    Endures ReadError.Reports 0 0 (r.item parent permitted child token) := by
  cases token with
  | opening name attributes =>
    refine (endures_statement name).bind 0 (fun _ => ?_) (Nat.zero_le _)
    by_cases hname : permitted.contains name = true
    · rw [if_pos hname]
      exact ((hchild _).map fun c => some [c]).mono (Nat.le_refl 0) (Nat.zero_le 1)
    · rw [if_neg hname]
      exact endures_fail _
  | text content =>
    by_cases hblank : Text.isBlank content = true
    · rw [item, if_pos hblank]
      exact endures_pure _
    · rw [item, if_neg hblank]
      exact endures_fail _
  | closing => exact endures_pure _

theorem endures_children {parent : String} {permitted : List String}
    {child : LeafElement → TokenReader ReadError (Condition P)}
    (hchild : ∀ e, Endures ReadError.Reports 0 1 (child e)) :
    Endures ReadError.Reports 0 1 (r.children parent permitted child) := by
  rw [children_eq]
  refine (endures_many _ ?_).map List.flatten
  exact (endures_nextOr _).bind 0 (endures_item hchild) (Nat.zero_le _)

theorem endures_lift {x : TokenReader DocumentError α} {ahead least : Nat}
    (h : Endures (fun error e => e = error) ahead least x) :
    Endures ReadError.Reports ahead least (liftM x : TokenReader ReadError α) :=
  h.mapError fun _ _ => id

/-- **Elements endure if the leaves of the registry do.** -/
theorem endures_element (hleaves : ∀ tag read, r.registry.find? tag = some (.leaf read) →
      ∀ e, Endures (fun error e => e = .document error) 1 0 (read e)) (levels : Nat)
    (e : LeafElement) : Endures ReadError.Reports 0 1 (r.element levels e) := by
  induction levels generalizing e with
  | zero => exact endures_fail _
  | succ levels ih =>
    cases hfind : r.registry.find? e.tag with
    | none =>
      rw [element_of_unknown levels hfind]
      exact endures_fail _
    | some found =>
      cases found with
      | composite junction =>
        rw [element_of_composite levels hfind]
        exact (endures_children ih).map (Condition.composite junction)
      | leaf read =>
        have hread : Endures ReadError.Reports 1 0 (mapError (.leaf e.tag) (read e)) :=
          (hleaves _ read hfind e).mapError fun error source h => by rw [h]; exact rfl
        rw [element_of_leaf levels hfind]
        refine hread.bind 1 (fun p => ?_) (Nat.le_refl 1)
        exact (endures_lift (endures_expectClose e.tag)).map fun _ => Condition.leaf p

/-- A condition ends with the end of its element. -/
theorem endures_read (hleaves : ∀ tag read, r.registry.find? tag = some (.leaf read) →
      ∀ e, Endures (fun error e => e = .document error) 1 0 (read e)) :
    Endures ReadError.Reports 0 1 r.read := by
  refine (endures_lift endures_skipBlankText).bind 1 (fun _ => ?_) (Nat.le_refl 1)
  refine endures_next_bind ReadError.reports_document 0
    ⟨.document (.unexpectedEnd openingExpected), rfl⟩ fun token => ?_
  cases token with
  | opening name attributes =>
    exact (endures_element hleaves r.maxDepth ⟨name, attributes⟩).mono (Nat.le_refl 0)
      (Nat.zero_le 1)
  | text content => exact endures_fail _
  | closing => exact endures_fail _

end Reader

/-! ## 5. Conditions -/

/-- **A source that breaks down never makes another tree.** Where a condition is read from the plain
    tokens, a source that lasts for as many calls answers the same tree, and has so many calls fewer
    left; one that lasts for fewer calls makes the reader fail with what the source broke down with.
    Where the plain tokens are refused, so are those of the source, for the same cause or since the
    source broke down before. -/
theorem read_breakdown {r : Reader TextMatcher}
    (hleaves : LeavesReadBy TextMatcher.readElement r.registry) (tokens : List Token) :
    let plain := r.read.run (.ofTokens tokens)
    let breaking (allowance : Nat) (error : DocumentError) :=
      r.read.run (.breaking tokens allowance error)
    (∀ c s, plain = (.ok c, s) → ∃ calls rest,
      s = .ofTokens rest ∧ tokens.length = calls + rest.length ∧
        ∀ allowance error,
          (calls ≤ allowance →
            breaking allowance error = (.ok c, .breaking rest (allowance - calls) error)) ∧
          (allowance < calls →
            ∃ e s', breaking allowance error = (.error e, s') ∧ e.Reports error)) ∧
    ∀ e s, plain = (.error e, s) → ∀ allowance error, ∃ e' s',
      breaking allowance error = (.error e', s') ∧ (e' = e ∨ e'.Reports error) := by
  intro plain breaking
  have hread : ∀ tag read, r.registry.find? tag = some (.leaf read) →
      ∀ e, Endures (fun error e => e = .document error) 1 0 (read e) := by
    intro tag read hfind e
    rw [hleaves tag read hfind]
    exact TextMatcher.endures_readElement e
  have hendures := Reader.endures_read hread tokens
  refine ⟨fun c s hplain => ?_, hendures.fails⟩
  obtain ⟨taken, rest, need, htokens, hs, htakes, hneed, -⟩ := hendures.answers c s hplain
  -- A condition ends with a token that is taken, so that nothing is looked at behind it.
  obtain rfl : taken.length = need := Nat.le_antisymm htakes.covers hneed
  have hlength : tokens.length = taken.length + rest.length := by
    rw [htokens, List.length_append]
  subst htokens
  exact ⟨taken.length, rest, hs, hlength,
    fun allowance error => ⟨htakes.enough allowance error, htakes.tooFew allowance error⟩⟩

/-- A source that breaks down behind the text of a leaf, where the end of the text is looked for,
    and a document without an end. -/
theorem read_breakdown_leaf_text :
    let r : Reader TextMatcher := ⟨Registry.standard, 2⟩
    let leaf : List Token := [.text " ", .opening "allOf" [], .opening "condition" [], .text "x"]
    let document : List Token := leaf ++ [.closing, .closing, .text "behind"]
    LeavesReadBy TextMatcher.readElement r.registry ∧
      (∃ c, r.read.run (.ofTokens document) = (.ok c, .ofTokens [.text "behind"]) ∧
        (∀ error, r.read.run (.breaking document 8 error) =
          (.ok c, .breaking [.text "behind"] 2 error)) ∧
        ∀ error, ∃ e s, r.read.run (.breaking document 4 error) = (.error e, s) ∧
          e.Reports error) ∧
      r.read.run (.ofTokens leaf) =
        (.error (.document (.unexpectedEnd "</condition>")), .ofTokens []) ∧
      ∀ error, ∃ e s, r.read.run (.breaking leaf 9 error) = (.error e, s) ∧
        (e = .document (.unexpectedEnd "</condition>") ∨ e.Reports error) := by
  intro r leaf document
  have hleaves : LeavesReadBy TextMatcher.readElement r.registry := leavesReadBy_standard
  have hcut : r.read.run (.ofTokens leaf) =
      (.error (.document (.unexpectedEnd "</condition>")), .ofTokens []) := by
    with_unfolding_all rfl
  have hread : ∃ c, r.read.run (.ofTokens document) = (.ok c, .ofTokens [.text "behind"]) := by
    have hok : (r.read.run (.ofTokens document)).1.isOk = true := by decide +kernel
    have hrest : (r.read.run (.ofTokens document)).2 = .ofTokens [.text "behind"] := by
      with_unfolding_all rfl
    rcases hrun : r.read.run (.ofTokens document) with ⟨e | c, s⟩
    · rw [hrun] at hok
      cases hok
    · rw [hrun] at hrest
      exact ⟨c, congrArg _ hrest⟩
  obtain ⟨c, hread⟩ := hread
  obtain ⟨calls, rest, hrest, hlength, hbreaking⟩ := (read_breakdown hleaves document).1 _ _ hread
  -- The tokens that are left say how many were taken.
  obtain rfl : [.text "behind"] = rest := congrArg TokenSource.tokens hrest
  obtain rfl : 6 = calls := Nat.add_right_cancel hlength
  exact ⟨hleaves, ⟨c, hread, fun error => (hbreaking 8 error).1 (by decide),
    fun error => (hbreaking 4 error).2 (by decide)⟩, hcut,
    fun error => (read_breakdown hleaves leaf).2 _ _ hcut 9 error⟩

end Verdict
