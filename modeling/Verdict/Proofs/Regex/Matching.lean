import Mathlib.Data.Finset.Card
import Mathlib.Data.Finset.Range
import Verdict.Proofs.Regex.Span

/-!
# Matching finds what an expression spans

Matching computes with sets of places, an expression spans parts of a text. `Leads` reads a property
of parts as a relation between the two places where a part begins and ends.

* `testBit_placesOf`, `getElem?_surroundings`: the sets of places that an expression is laid over a
  text with;
* `leads_followedBy`, `leads_times_add`: two parts in a row lead over the place between them;
* `Moves`: a step on sets of places that takes each place along the relation;
* `moves_times`, `moves_saturate`, `moves_saturate_all`: repeating a step, a number of times, at
  most a number of times, or as long as it brings anything new;
* **`moves_reach`**: every expression moves places along its parts;
* **`Regex.isMatch_iff`**: so a text matches if the expression spans a part of it.
-/

namespace Verdict

/-! ## 1. Places of a text -/

theorem testBit_placesOf (entries : List Bool) (i : Nat) :
    (placesOf entries).testBit i = entries[i]?.getD false := by
  induction entries generalizing i with
  | nil => exact Nat.zero_testBit i
  | cons b rest ih =>
    cases i with
    | zero =>
      rw [placesOf, Nat.testBit_zero]
      cases b <;> simp
    | succ i =>
      have hhalf : (b.toNat + 2 * placesOf rest) / 2 = placesOf rest := by
        have := Bool.toNat_lt b
        omega
      rw [placesOf, Nat.testBit_succ, hhalf, ih]
      rfl

/-- The characters around a place are the last one before it and the first one behind it. -/
theorem getElem?_surroundings (start : Option Char) (before after : List Char) :
    (surroundings start (before ++ after))[before.length]? =
      some (before.getLast?.or start, after.head?) := by
  induction before generalizing start with
  | nil => cases after <;> rfl
  | cons c rest ih =>
    have hlast : rest.getLast?.or (some c) = ((c :: rest).getLast?).or start := by
      rw [List.getLast?_cons]
      cases rest.getLast? <;> rfl
    rw [List.cons_append, surroundings, List.length_cons, List.getElem?_cons_succ, ih, hlast]

/-- A part of this kind begins at the first place and ends at the second one. -/
def Leads (text : List Char) (X : Parts) (i j : Nat) : Prop :=
  ∃ before part after, text = before ++ (part ++ after) ∧ before.length = i ∧
    i + part.length = j ∧ X before part after

section Leads

variable {text : List Char} {X Y : Parts} {i j : Nat}

theorem Leads.le_length (h : Leads text X i j) : j ≤ text.length := by
  obtain ⟨before, part, after, rfl, rfl, rfl, -⟩ := h
  simp only [List.length_append]
  omega

theorem leads_nil :
    Leads text (fun _ part _ => part = []) i j ↔ i = j ∧ i ≤ text.length := by
  constructor
  · rintro ⟨before, part, after, rfl, rfl, rfl, rfl⟩
    simp
  · rintro ⟨rfl, hi⟩
    exact ⟨text.take i, [], text.drop i, (List.take_append_drop i text).symm,
      List.length_take_of_le hi, rfl, rfl⟩

/-- Two parts in a row lead over the place between them. -/
theorem leads_followedBy :
    Leads text (X.followedBy Y) i j ↔ ∃ k, Leads text X i k ∧ Leads text Y k j := by
  constructor
  · rintro ⟨before, _, after, rfl, rfl, rfl, p, q, rfl, hX, hY⟩
    refine ⟨before.length + p.length, ⟨before, p, q ++ after, ?_, rfl, rfl, hX⟩,
      ⟨before ++ p, q, after, ?_, List.length_append, ?_, hY⟩⟩
    · rw [List.append_assoc]
    · rw [List.append_assoc, List.append_assoc]
    · rw [List.length_append, Nat.add_assoc]
  · rintro ⟨k, ⟨before, p, rest, rfl, rfl, rfl, hX⟩, ⟨front, q, after, htext, hfront, rfl, hY⟩⟩
    -- Both ways of cutting the text have a cut at the place between the parts.
    rw [← List.append_assoc] at htext
    have hlength : (before ++ p).length = front.length := by rw [List.length_append, hfront]
    obtain ⟨rfl, rfl⟩ := List.append_inj htext hlength
    refine ⟨before, p ++ q, after, ?_, rfl, ?_, p, q, rfl, hX, hY⟩
    · rw [List.append_assoc]
    · rw [List.length_append, Nat.add_assoc]

theorem leads_exists {ι : Type} {Xs : ι → Parts} :
    Leads text (fun before part after => ∃ n, Xs n before part after) i j ↔
      ∃ n, Leads text (Xs n) i j := by
  constructor
  · rintro ⟨before, part, after, htext, hi, hj, n, hX⟩
    exact ⟨n, before, part, after, htext, hi, hj, hX⟩
  · rintro ⟨n, before, part, after, htext, hi, hj, hX⟩
    exact ⟨before, part, after, htext, hi, hj, n, hX⟩

theorem leads_and {p : Prop} :
    Leads text (fun before part after => p ∧ X before part after) i j ↔ p ∧ Leads text X i j := by
  constructor
  · rintro ⟨before, part, after, htext, hi, hj, hp, hX⟩
    exact ⟨hp, before, part, after, htext, hi, hj, hX⟩
  · rintro ⟨hp, before, part, after, htext, hi, hj, hX⟩
    exact ⟨before, part, after, htext, hi, hj, hp, hX⟩

theorem leads_or :
    Leads text (fun before part after => X before part after ∨ Y before part after) i j ↔
      Leads text X i j ∨ Leads text Y i j := by
  constructor
  · rintro ⟨before, part, after, htext, hi, hj, hX | hY⟩
    · exact .inl ⟨before, part, after, htext, hi, hj, hX⟩
    · exact .inr ⟨before, part, after, htext, hi, hj, hY⟩
  · rintro (⟨before, part, after, htext, hi, hj, hX⟩ | ⟨before, part, after, htext, hi, hj, hY⟩)
    · exact ⟨before, part, after, htext, hi, hj, .inl hX⟩
    · exact ⟨before, part, after, htext, hi, hj, .inr hY⟩

theorem leads_times_zero : Leads text (X.times 0) i j ↔ i = j ∧ i ≤ text.length := leads_nil

theorem leads_times_succ {n : Nat} :
    Leads text (X.times (n + 1)) i j ↔ ∃ k, Leads text X i k ∧ Leads text (X.times n) k j :=
  leads_followedBy

theorem leads_times_add {m n : Nat} :
    Leads text (X.times (m + n)) i j ↔
      ∃ k, Leads text (X.times m) i k ∧ Leads text (X.times n) k j := by
  induction m generalizing i with
  | zero =>
    rw [Nat.zero_add]
    simp only [leads_times_zero]
    constructor
    · intro h
      obtain ⟨before, part, after, rfl, rfl, -, -⟩ := id h
      exact ⟨_, ⟨rfl, by simp⟩, h⟩
    · rintro ⟨_, ⟨rfl, -⟩, h⟩
      exact h
  | succ m ih =>
    rw [Nat.succ_add, leads_times_succ]
    simp only [ih, leads_times_succ]
    constructor
    · rintro ⟨k, hk, l, hl, h⟩
      exact ⟨l, ⟨k, hk, hl⟩, h⟩
    · rintro ⟨l, ⟨k, hk, hl⟩, h⟩
      exact ⟨k, hk, l, hl, h⟩

/-- A repetition leads over the place behind the parts that have to be there. -/
theorem leads_iterate {r : Regex} {least : Nat} {most : Option Nat} :
    Leads text (Regex.iterate r least most).Spans i j ↔
      ∃ k, Leads text (r.Spans.times least) i k ∧
        ∃ n, (∀ bound ∈ most, n ≤ bound - least) ∧ Leads text (r.Spans.times n) k j := by
  simp only [Regex.Spans, leads_exists, leads_and]
  constructor
  · rintro ⟨n, hn, hmost, h⟩
    obtain ⟨more, rfl⟩ := Nat.exists_eq_add_of_le hn
    obtain ⟨k, hleast, hmore⟩ := leads_times_add.mp h
    refine ⟨k, hleast, more, fun bound hbound => ?_, hmore⟩
    have := hmost bound hbound
    omega
  · rintro ⟨k, hleast, more, hmost, hmore⟩
    refine ⟨least + more, Nat.le_add_right _ _, fun bound hbound => ?_,
      leads_times_add.mpr ⟨k, hleast, hmore⟩⟩
    have := hmost bound hbound
    omega

end Leads

/-! ## 2. Steps -/

/-- All places of the set are places of the text. -/
def Within (text : List Char) (places : Nat) : Prop :=
  ∀ i, places.testBit i = true → i ≤ text.length

/-- A step on sets of places takes each place along the parts of a kind that begin there. -/
def Moves (text : List Char) (step : Nat → Nat) (X : Parts) : Prop :=
  ∀ places, Within text places → ∀ j,
    (step places).testBit j = true ↔ ∃ i, places.testBit i = true ∧ Leads text X i j

namespace Moves

variable {text : List Char} {step step' : Nat → Nat} {X Y : Parts}

theorem within (h : Moves text step X) {places : Nat} (hplaces : Within text places) :
    Within text (step places) := by
  intro j hj
  obtain ⟨i, -, hleads⟩ := (h places hplaces j).mp hj
  exact hleads.le_length

/-- Only where the parts begin and end matters. -/
theorem congr (h : Moves text step X) (hXY : ∀ i j, Leads text X i j ↔ Leads text Y i j) :
    Moves text step Y := by
  intro places hplaces j
  rw [h places hplaces j]
  simp only [hXY]

theorem stay : Moves text id (fun _ part _ => part = []) := by
  intro places hplaces j
  simp only [leads_nil, id]
  constructor
  · intro hj
    exact ⟨j, hj, rfl, hplaces j hj⟩
  · rintro ⟨_, hi, rfl, -⟩
    exact hi

theorem followedBy (h : Moves text step X) (h' : Moves text step' Y) :
    Moves text (step' ∘ step) (X.followedBy Y) := by
  intro places hplaces j
  rw [Function.comp_apply, h' _ (h.within hplaces)]
  simp only [h places hplaces, leads_followedBy]
  constructor
  · rintro ⟨k, ⟨i, hi, hX⟩, hY⟩
    exact ⟨i, hi, k, hX, hY⟩
  · rintro ⟨i, hi, k, hX, hY⟩
    exact ⟨k, ⟨i, hi, hX⟩, hY⟩

theorem union (h : Moves text step X) (h' : Moves text step' Y) :
    Moves text (fun places => step places ||| step' places)
      (fun before part after => X before part after ∨ Y before part after) := by
  intro places hplaces j
  simp only [Nat.testBit_or, Bool.or_eq_true, h places hplaces, h' places hplaces, leads_or,
    and_or_left, exists_or]

end Moves

/-! ## 3. Repeated steps -/

namespace Route

/-- A step that changes nothing is taken any number of times at once. -/
theorem times_of_fixed {step : Nat → Nat} {places : Nat} (h : step places = places) (n : Nat) :
    times step n places = places := by
  cases n with
  | zero => rfl
  | succ n => exact if_pos h

theorem times_succ (step : Nat → Nat) (n places : Nat) :
    times step (n + 1) places = times step n (step places) := by
  by_cases h : step places = places
  · rw [times_of_fixed h, h, times_of_fixed h]
  · exact if_neg h

end Route

section Repeated

variable {text : List Char} {step : Nat → Nat} {X : Parts}

theorem moves_times (h : Moves text step X) (n : Nat) :
    Moves text (Route.times step n) (X.times n) := by
  induction n with
  | zero => exact Moves.stay
  | succ n ih =>
    intro places hplaces j
    rw [Route.times_succ]
    exact h.followedBy ih places hplaces j

/-- Where a step brings nothing new, no number of steps does. -/
theorem testBit_of_closed (h : Moves text step X) {places : Nat} (hplaces : Within text places)
    (hclosed : places ||| step places = places) {n i j : Nat} (hi : places.testBit i = true)
    (hleads : Leads text (X.times n) i j) : places.testBit j = true := by
  induction n generalizing i with
  | zero =>
    obtain ⟨rfl, -⟩ := leads_times_zero.mp hleads
    exact hi
  | succ n ih =>
    obtain ⟨k, hk, hleads⟩ := leads_times_succ.mp hleads
    refine ih ?_ hleads
    have hstep : (step places).testBit k = true := (h places hplaces k).mpr ⟨i, hi, hk⟩
    rw [← hclosed, Nat.testBit_or, hstep, Bool.or_true]

theorem within_or (h : Moves text step X) {places : Nat} (hplaces : Within text places) :
    Within text (places ||| step places) := by
  intro i hi
  rw [Nat.testBit_or, Bool.or_eq_true] at hi
  exact hi.elim (hplaces i) (h.within hplaces i)

/-- Taking a step at most a number of times. -/
theorem moves_saturate (h : Moves text step X) (rounds : Nat) :
    Moves text (Route.saturate step rounds)
      (fun before part after => ∃ n ≤ rounds, X.times n before part after) := by
  intro places hplaces j
  simp only [leads_exists, leads_and]
  induction rounds generalizing places with
  | zero =>
    simp only [Route.saturate, Nat.le_zero, exists_eq_left, leads_times_zero]
    constructor
    · intro hj
      exact ⟨j, hj, rfl, hplaces j hj⟩
    · rintro ⟨_, hi, rfl, -⟩
      exact hi
  | succ rounds ih =>
    rw [Route.saturate]
    split
    · rename_i hclosed
      constructor
      · intro hj
        exact ⟨j, hj, 0, Nat.zero_le _, leads_times_zero.mpr ⟨rfl, hplaces j hj⟩⟩
      · rintro ⟨i, hi, n, -, hn⟩
        exact testBit_of_closed h hplaces hclosed hi hn
    · rw [ih _ (within_or h hplaces)]
      simp only [Nat.testBit_or, Bool.or_eq_true, h places hplaces]
      constructor
      · rintro ⟨k, hk | ⟨i, hi, hstep⟩, n, hn, hleads⟩
        · exact ⟨k, hk, n, Nat.le_succ_of_le hn, hleads⟩
        · exact ⟨i, hi, n + 1, Nat.succ_le_succ hn, leads_times_succ.mpr ⟨k, hstep, hleads⟩⟩
      · rintro ⟨i, hi, n, hn, hleads⟩
        cases n with
        | zero => exact ⟨i, .inl hi, 0, Nat.zero_le _, hleads⟩
        | succ n =>
          obtain ⟨k, hk, hleads⟩ := leads_times_succ.mp hleads
          exact ⟨k, .inr ⟨i, hi, hk⟩, n, Nat.le_of_succ_le_succ hn, hleads⟩

/-- The places of the text that are in the set. -/
def members (text : List Char) (places : Nat) : Finset Nat :=
  (Finset.range (text.length + 1)).filter fun i => places.testBit i = true

theorem mem_members {i places : Nat} :
    i ∈ members text places ↔ i < text.length + 1 ∧ places.testBit i = true := by
  rw [members, Finset.mem_filter, Finset.mem_range]

/-- A round that adds no place brings nothing new. -/
theorem closed_of_members_subset (h : Moves text step X) {places : Nat}
    (hplaces : Within text places)
    (hsubset : members text (places ||| step places) ⊆ members text places) :
    places ||| step places = places := by
  refine Nat.eq_of_testBit_eq fun i => ?_
  rcases hnew : (places ||| step places).testBit i with _ | _
  · rw [Nat.testBit_or, Bool.or_eq_false_iff] at hnew
    exact hnew.1.symm
  · have hi := Nat.lt_succ_of_le (within_or h hplaces i hnew)
    exact (mem_members.mp (hsubset (mem_members.mpr ⟨hi, hnew⟩))).2.symm

/-- A round that brings something new adds a place. -/
theorem card_members_lt (h : Moves text step X) {places : Nat} (hplaces : Within text places)
    (hopen : places ||| step places ≠ places) :
    (members text places).card < (members text (places ||| step places)).card := by
  refine Finset.card_lt_card ⟨fun i hi => ?_, fun hsubset =>
    hopen (closed_of_members_subset h hplaces hsubset)⟩
  obtain ⟨hi, hmem⟩ := mem_members.mp hi
  exact mem_members.mpr ⟨hi, by rw [Nat.testBit_or, hmem, Bool.true_or]⟩

/-- Either the rounds end because nothing new comes, or each of them has added a place. -/
theorem closed_or_card_le (h : Moves text step X) (rounds : Nat) {places : Nat}
    (hplaces : Within text places) :
    let reached := Route.saturate step rounds places
    reached ||| step reached = reached ∨
      (members text places).card + rounds ≤ (members text reached).card := by
  induction rounds generalizing places with
  | zero => exact .inr (Nat.le_refl _)
  | succ rounds ih =>
    rw [Route.saturate]
    dsimp only
    split
    · rename_i hclosed
      exact .inl hclosed
    · rename_i hopen
      have hlt := card_members_lt h hplaces hopen
      rcases ih (within_or h hplaces) with hclosed | hcard
      · exact .inl hclosed
      · exact .inr (by omega)

/-- As many rounds as there are places bring all that any number of them brings. -/
theorem closed_saturate (h : Moves text step X) {places : Nat} (hplaces : Within text places) :
    let reached := Route.saturate step (text.length + 1) places
    reached ||| step reached = reached := by
  intro reached
  rcases closed_or_card_le h (text.length + 1) hplaces with hclosed | hcard
  · exact hclosed
  · have hreached : Within text reached := (moves_saturate h _).within hplaces
    -- Every place of the text has been added by then.
    have hall : members text reached = Finset.range (text.length + 1) := by
      refine Finset.eq_of_subset_of_card_le (Finset.filter_subset _ _) ?_
      rw [Finset.card_range]
      exact Nat.le_trans (Nat.le_add_left _ _) hcard
    refine closed_of_members_subset h hreached ?_
    rw [hall]
    exact Finset.filter_subset _ _

/-- Taking a step any number of times. -/
theorem moves_saturate_all (h : Moves text step X) :
    Moves text (Route.saturate step (text.length + 1))
      (fun before part after => ∃ n, X.times n before part after) := by
  intro places hplaces j
  have hsaturate := moves_saturate h (text.length + 1) places hplaces
  simp only [leads_exists, leads_and] at hsaturate ⊢
  constructor
  · intro hj
    obtain ⟨i, hi, n, -, hleads⟩ := (hsaturate j).mp hj
    exact ⟨i, hi, n, hleads⟩
  · rintro ⟨i, hi, n, hleads⟩
    have hstart : (Route.saturate step (text.length + 1) places).testBit i = true :=
      (hsaturate i).mpr ⟨i, hi, 0, Nat.zero_le _, leads_times_zero.mpr ⟨rfl, hplaces i hi⟩⟩
    exact testBit_of_closed h ((moves_saturate h _).within hplaces) (closed_saturate h hplaces)
      hstart hleads

end Repeated

/-! ## 4. Expressions -/

section Expressions

variable {text : List Char}

theorem moves_one (c : Unicode.CharClass) :
    Moves text (fun places => (places &&& placesOf (text.map fun x => c.contains x.toNat)) <<< 1)
      (Regex.one c).Spans := by
  intro places hplaces j
  rw [Nat.testBit_shiftLeft]
  cases j with
  | zero =>
    constructor
    · intro h
      cases h
    · rintro ⟨i, -, before, _, after, -, -, hend, x, rfl, -⟩
      exact absurd hend (Nat.succ_ne_zero _)
  | succ i =>
    rw [Nat.add_sub_cancel, Nat.testBit_and, testBit_placesOf]
    simp only [ge_iff_le, Nat.le_add_left, decide_true, Bool.true_and, Bool.and_eq_true]
    constructor
    · rintro ⟨hi, hclass⟩
      rcases hget : text[i]? with _ | x
      · simp [hget] at hclass
      · obtain ⟨hlt, rfl⟩ := List.getElem?_eq_some_iff.mp hget
        refine ⟨i, hi, text.take i, [text[i]], text.drop (i + 1), ?_,
          List.length_take_of_le (Nat.le_of_lt hlt), rfl, text[i], rfl, ?_⟩
        · rw [List.singleton_append, List.getElem_cons_drop, List.take_append_drop]
        · simpa [hget] using hclass
    · rintro ⟨_, hi, before, _, after, rfl, rfl, hend, x, rfl, hclass⟩
      obtain rfl : before.length = i := Nat.succ.inj hend
      exact ⟨hi, by simpa using hclass⟩

theorem moves_assert (a : Assertion) :
    Moves text
      (fun places =>
        places &&& placesOf ((surroundings none text).map fun (b, c) => a.holds b c))
      (Regex.assert a).Spans := by
  intro places hplaces j
  rw [Nat.testBit_and, testBit_placesOf, Bool.and_eq_true, List.getElem?_map]
  constructor
  · rintro ⟨hj, hholds⟩
    have hle := hplaces j hj
    have hget := getElem?_surroundings none (text.take j) (text.drop j)
    rw [List.take_append_drop, List.length_take_of_le hle, Option.or_none] at hget
    rw [hget] at hholds
    exact ⟨j, hj, text.take j, [], text.drop j, (List.take_append_drop j text).symm,
      List.length_take_of_le hle, rfl, rfl, hholds⟩
  · rintro ⟨i, hi, before, _, after, rfl, rfl, rfl, rfl, hholds⟩
    refine ⟨hi, ?_⟩
    rw [List.length_nil, Nat.add_zero, List.nil_append, getElem?_surroundings, Option.or_none]
    exact hholds

/-- **Every expression moves places along the parts that it spans.** -/
theorem moves_reach (text : List Char) (r : Regex) :
    Moves text ((r.over text).reach text.length) r.Spans := by
  induction r with
  | empty => exact Moves.stay
  | one c => exact moves_one c
  | assert a => exact moves_assert a
  | seq r s ihr ihs => exact ihr.followedBy ihs
  | alt r s ihr ihs => exact ihr.union ihs
  | iterate r least most ih =>
    cases most with
    | none =>
      refine ((moves_times ih least).followedBy (moves_saturate_all ih)).congr fun i j => ?_
      simp [leads_followedBy, leads_exists, leads_iterate]
    | some bound =>
      refine ((moves_times ih least).followedBy (moves_saturate ih (bound - least))).congr
        fun i j => ?_
      simp [leads_followedBy, leads_exists, leads_and, leads_iterate]

/-- **A text matches if the expression spans a part of it.** -/
theorem Regex.isMatch_iff {r : Regex} {text : List Char} :
    r.isMatch text = true ↔
      ∃ before part after, text = before ++ (part ++ after) ∧ r.Spans before part after := by
  let start := 1 <<< (text.length + 1) - 1
  have hstart : ∀ i, start.testBit i = decide (i < text.length + 1) := by
    intro i
    show (1 <<< (text.length + 1) - 1).testBit i = _
    rw [Nat.one_shiftLeft, Nat.testBit_two_pow_sub_one]
  have hwithin : Within text start := by
    intro i hi
    rw [hstart, decide_eq_true_eq] at hi
    exact Nat.le_of_lt_succ hi
  have hmoves := moves_reach text r start hwithin
  rw [Regex.isMatch, bne_iff_ne]
  constructor
  · intro h
    obtain ⟨j, hj⟩ := Nat.exists_testBit_of_ne_zero h
    obtain ⟨i, -, before, part, after, htext, -, -, hspans⟩ := (hmoves j).mp hj
    exact ⟨before, part, after, htext, hspans⟩
  · rintro ⟨before, part, after, htext, hspans⟩ hzero
    have hle : before.length < text.length + 1 := by
      rw [htext, List.length_append]
      omega
    have hend := (hmoves (before.length + part.length)).mpr
      ⟨before.length, by rw [hstart, decide_eq_true hle], before, part, after, htext, rfl, rfl,
        hspans⟩
    rw [hzero, Nat.zero_testBit] at hend
    cases hend

end Expressions

end Verdict
