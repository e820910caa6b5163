import Verdict.Proofs.Document.Nesting

/-!
# One element, position by position

* `levelAt`: how many elements are open before the token at a position;
* `Closes`, `highest`: tokens that end every open element with their last token and not before, and
  the most elements that are open anywhere in them;
* `highest_append`, `highest_add`, `highest_element`: the highest level of tokens in a row, inside
  further elements, and of one element;
* `scanNesting_eq_ok_iff`: a scan inside an element accepts exactly such tokens;
* `SingleElement`: one element and its depth, in terms of the levels at its positions;
* **`measure_eq_ok_iff_singleElement`**: `measure` accepts exactly these and answers their depth;
* `singleElement_iff_isElement`: they are the elements of the grammar, each with its least number of
  levels.
-/

namespace Verdict

variable {level depth : Nat} {tokens rest : List Token}

/-! ## 1. Levels -/

/-- The number of open elements before the token at `position`, when `level` are open at the start;
    none if a close before it has no element to end. -/
def levelAt (level : Nat) (tokens : List Token) (position : Nat) : Option Nat :=
  openAfter level (tokens.take position)

theorem levelAt_nil (level position : Nat) : levelAt level [] position = some level := by
  rw [levelAt, List.take_nil, openAfter]

/-- Every open element, and every one of the tokens, ends with the last token and not before. -/
structure Closes (level : Nat) (tokens : List Token) : Prop where
  inside : ∀ position < tokens.length, ∃ outer, levelAt level tokens position = some (outer + 1)
  closed : openAfter level tokens = some 0

theorem closes_nil_iff : Closes level [] ↔ level = 0 := by
  constructor
  · intro h
    exact Option.some.inj h.closed
  · rintro rfl
    exact ⟨fun position hposition => absurd hposition (Nat.not_lt_zero _), rfl⟩

theorem not_closes_zero_cons (token : Token) : ¬Closes 0 (token :: rest) := by
  intro h
  obtain ⟨outer, houter⟩ := h.inside 0 (Nat.succ_pos _)
  cases houter

/-- Behind its first token, what closes `level + 1` elements closes those that are open then. -/
theorem closes_cons_iff {token : Token} {next : Nat}
    (hnext : ∀ rest, openAfter (level + 1) (token :: rest) = openAfter next rest) :
    Closes (level + 1) (token :: rest) ↔ Closes next rest := by
  have hlevel : ∀ position,
      levelAt (level + 1) (token :: rest) (position + 1) = levelAt next rest position :=
    fun position => hnext (rest.take position)
  constructor
  · intro h
    refine ⟨fun position hposition => ?_, (hnext rest).symm.trans h.closed⟩
    rw [← hlevel]
    exact h.inside (position + 1) (Nat.succ_lt_succ hposition)
  · intro h
    refine ⟨fun position hposition => ?_, (hnext rest).trans h.closed⟩
    cases position with
    | zero => exact ⟨level, rfl⟩
    | succ position =>
      rw [hlevel]
      exact h.inside position (Nat.lt_of_succ_lt_succ hposition)

/-- The most elements that are open before, between or after the tokens. -/
def highest (level : Nat) : List Token → Nat
  | [] => level
  | .opening _ _ :: rest => max level (highest (level + 1) rest)
  | .text _ :: rest => max level (highest level rest)
  | .closing :: rest => max level (highest (level - 1) rest)

theorem le_highest (level : Nat) (tokens : List Token) : level ≤ highest level tokens := by
  cases tokens with
  | nil => exact Nat.le_refl level
  | cons token rest => cases token <;> exact Nat.le_max_left _ _

theorem highest_zero_opening (name : String) (attributes : List Attribute) (rest : List Token) :
    highest 0 (.opening name attributes :: rest) = highest 1 rest :=
  Nat.max_eq_right (Nat.zero_le _)

/-- No level is above the highest. -/
theorem levelAt_le_highest {position found : Nat} (h : levelAt level tokens position = some found) :
    found ≤ highest level tokens := by
  induction tokens generalizing level position with
  | nil =>
    rw [levelAt_nil] at h
    exact Nat.le_of_eq (Option.some.inj h).symm
  | cons token rest ih =>
    cases position with
    | zero =>
      obtain rfl := Option.some.inj h
      exact le_highest _ _
    | succ position =>
      cases token with
      | opening name attributes => exact Nat.le_trans (ih h) (Nat.le_max_right _ _)
      | text content => exact Nat.le_trans (ih h) (Nat.le_max_right _ _)
      | closing =>
        cases level with
        | zero => cases h
        | succ outer => exact Nat.le_trans (ih h) (Nat.le_max_right _ _)

/-- The higher of the level at the start and the highest one behind the first token is reached. -/
theorem exists_levelAt_max {token : Token} {next : Nat}
    (hnext : ∀ position,
      levelAt level (token :: rest) (position + 1) = levelAt next rest position)
    (h : ∃ position, levelAt next rest position = some (highest next rest)) :
    ∃ position, levelAt level (token :: rest) position = some (max level (highest next rest)) := by
  obtain ⟨position, hposition⟩ := h
  rcases Nat.le_total level (highest next rest) with hle | hle
  · rw [Nat.max_eq_right hle]
    exact ⟨position + 1, (hnext position).trans hposition⟩
  · rw [Nat.max_eq_left hle]
    exact ⟨0, rfl⟩

/-- The highest level is reached, unless a close has no element to end. -/
theorem exists_levelAt_highest {final : Nat} (h : openAfter level tokens = some final) :
    ∃ position, levelAt level tokens position = some (highest level tokens) := by
  induction tokens generalizing level with
  | nil => exact ⟨0, rfl⟩
  | cons token rest ih =>
    cases token with
    | opening name attributes => exact exists_levelAt_max (fun _ => rfl) (ih h)
    | text content => exact exists_levelAt_max (fun _ => rfl) (ih h)
    | closing =>
      cases level with
      | zero => cases h
      | succ outer => exact exists_levelAt_max (fun _ => rfl) (ih h)

/-- Behind `a`, what is highest in `b` counts from the level that `a` leaves. -/
theorem highest_append {a b : List Token} {middle : Nat} (h : openAfter level a = some middle) :
    highest level (a ++ b) = max (highest level a) (highest middle b) := by
  induction a generalizing level with
  | nil =>
    obtain rfl := Option.some.inj h
    exact (Nat.max_eq_right (le_highest level b)).symm
  | cons token a ih =>
    cases token with
    | opening name attributes => rw [List.cons_append, highest, highest, ih h, Nat.max_assoc]
    | text content => rw [List.cons_append, highest, highest, ih h, Nat.max_assoc]
    | closing =>
      cases level with
      | zero => cases h
      | succ outer =>
        have hrest : highest outer (a ++ b) = max (highest outer a) (highest middle b) := ih h
        rw [List.cons_append, highest, highest, Nat.add_sub_cancel, hrest, Nat.max_assoc]

/-- Elements around the tokens raise all of their levels. -/
theorem highest_add {final : Nat} (h : openAfter level tokens = some final) (around : Nat) :
    highest (level + around) tokens = highest level tokens + around := by
  induction tokens generalizing level with
  | nil => rfl
  | cons token rest ih =>
    cases token with
    | opening name attributes =>
      have hrest : highest (level + around + 1) rest = highest (level + 1) rest + around := by
        rw [Nat.add_right_comm]
        exact ih h
      rw [highest, highest, hrest, Nat.add_max_add_right]
    | text content => rw [highest, highest, ih h, Nat.add_max_add_right]
    | closing =>
      cases level with
      | zero => cases h
      | succ outer =>
        have hrest : highest (outer + 1 + around - 1) rest = highest outer rest + around := by
          rw [Nat.add_right_comm, Nat.add_sub_cancel]
          exact ih h
        rw [highest, highest, hrest, Nat.add_sub_cancel, Nat.add_max_add_right]

/-- The ends of an element are not higher than its body. -/
theorem highest_element {body : List Token} (name : String) (attributes : List Attribute)
    (h : openAfter (level + 1) body = some (level + 1)) :
    highest level (.opening name attributes :: body ++ [.closing]) = highest (level + 1) body := by
  have hbody : level + 1 ≤ highest (level + 1) body := le_highest (level + 1) body
  rw [List.cons_append, highest, highest_append h, highest, highest, Nat.add_sub_cancel]
  omega

/-! ## 2. Scans -/

/-- **A scan inside the document accepts the tokens that close what is open**, and answers the most
    elements that are open in them, or were before. -/
theorem scanNesting_eq_ok_iff (position : Nat) {deepest : Nat} (hlevel : level ≤ deepest) :
    scanNesting (position + 1) level deepest tokens = .ok (0, depth) ↔
      Closes level tokens ∧ depth = max deepest (highest level tokens) := by
  induction tokens generalizing position level deepest with
  | nil =>
    rw [closes_nil_iff, highest, Nat.max_eq_left hlevel]
    show (Except.ok (level, deepest) : Except NestingFault _) = _ ↔ _
    rw [Except.ok.injEq, Prod.mk.injEq, eq_comm (a := deepest)]
  | cons token rest ih =>
    cases level with
    | zero =>
      refine ⟨fun h => ?_, fun h => absurd h.1 (not_closes_zero_cons token)⟩
      cases eq_nil_of_scanNesting_zero h
    | succ outer =>
      cases token with
      | opening name attributes =>
        have hmax : max (max deepest (outer + 2)) (highest (outer + 2) rest) =
            max deepest (max (outer + 1) (highest (outer + 2) rest)) := by
          have hle := le_highest (outer + 2) rest
          omega
        rw [scanNesting_opening, ih (position + 1) (Nat.le_max_right _ _), hmax,
          closes_cons_iff fun _ => rfl]
        rfl
      | text content =>
        have hmax : max deepest (highest (outer + 1) rest) =
            max deepest (max (outer + 1) (highest (outer + 1) rest)) := by
          omega
        rw [scanNesting_text, ih (position + 1) hlevel, hmax, closes_cons_iff fun _ => rfl]
        rfl
      | closing =>
        have hmax : max deepest (highest outer rest) =
            max deepest (max (outer + 1) (highest outer rest)) := by
          omega
        rw [scanNesting_closing, ih (position + 1) (Nat.le_of_succ_le hlevel), hmax,
          closes_cons_iff fun _ => rfl]
        rfl

/-! ## 3. Documents -/

/-- The tokens of exactly one element, with exactly `depth` levels of elements. -/
structure SingleElement (depth : Nat) (tokens : List Token) : Prop where
  /-- The first token is an opening tag. -/
  opens : ∃ name attributes rest, tokens = .opening name attributes :: rest
  /-- Behind the last token no element is open, -/
  closed : openAfter 0 tokens = some 0
  /-- but before every other token one is. -/
  inside : ∀ position, 0 < position → position < tokens.length →
    ∃ outer, levelAt 0 tokens position = some (outer + 1)
  /-- So is one around every text. -/
  text_inside : ∀ position content, tokens[position]? = some (.text content) →
    ∃ outer, levelAt 0 tokens position = some (outer + 1)
  /-- Nowhere are more than `depth` elements open, -/
  le_depth : ∀ position found, levelAt 0 tokens position = some found → found ≤ depth
  /-- and somewhere that many are. -/
  reaches : ∃ position, levelAt 0 tokens position = some depth

/-- One element is an opening tag and tokens that close it. -/
theorem singleElement_iff_closes : SingleElement depth tokens ↔
    ∃ name attributes rest, tokens = .opening name attributes :: rest ∧ Closes 1 rest ∧
      depth = highest 1 rest := by
  constructor
  · intro h
    obtain ⟨name, attributes, rest, rfl⟩ := h.opens
    refine ⟨name, attributes, rest, rfl, ⟨fun position hposition => ?_, h.closed⟩, ?_⟩
    · exact h.inside (position + 1) (Nat.succ_pos _) (Nat.succ_lt_succ hposition)
    · obtain ⟨position, hposition⟩ := h.reaches
      obtain ⟨position', hposition'⟩ := exists_levelAt_highest h.closed
      have hle := levelAt_le_highest hposition
      have hge := h.le_depth position' _ hposition'
      rw [highest_zero_opening] at hle hge
      exact Nat.le_antisymm hle hge
  · intro h
    obtain ⟨name, attributes, rest, rfl, hcloses, rfl⟩ := h
    have hclosed : openAfter 0 (.opening name attributes :: rest) = some 0 := hcloses.closed
    have hinside : ∀ position, 0 < position →
        position < (Token.opening name attributes :: rest).length →
        ∃ outer, levelAt 0 (.opening name attributes :: rest) position = some (outer + 1) := by
      intro position hpositive hposition
      obtain ⟨before, rfl⟩ := Nat.exists_eq_succ_of_ne_zero (Nat.ne_of_gt hpositive)
      exact hcloses.inside before (Nat.lt_of_succ_lt_succ hposition)
    refine ⟨⟨name, attributes, rest, rfl⟩, hclosed, hinside, fun position content htext => ?_,
      fun position found hfound => ?_, ?_⟩
    · have hpositive : 0 < position := by
        cases position with
        | zero => cases htext
        | succ before => exact Nat.succ_pos before
      exact hinside position hpositive (List.getElem?_eq_some_iff.mp htext).1
    · rw [← highest_zero_opening name attributes]
      exact levelAt_le_highest hfound
    · rw [← highest_zero_opening name attributes]
      exact exists_levelAt_highest hclosed

/-- **`measure` accepts exactly the single elements, and answers their depth.** -/
theorem measure_eq_ok_iff_singleElement :
    measure tokens = .ok depth ↔ SingleElement depth tokens := by
  rw [measure_eq_ok_iff, singleElement_iff_closes]
  cases tokens with
  | nil => simp
  | cons token rest =>
    cases token with
    | opening name attributes =>
      have hmax : max 1 (highest 1 rest) = highest 1 rest := Nat.max_eq_right (le_highest 1 rest)
      show _ ∧ scanNesting 1 1 1 rest = .ok (0, depth) ↔ _
      rw [scanNesting_eq_ok_iff 0 (Nat.le_refl 1), hmax]
      constructor
      · intro h
        exact ⟨name, attributes, rest, rfl, h.2⟩
      · intro h
        obtain ⟨_, _, _, heq, hcloses⟩ := h
        obtain ⟨-, rfl⟩ := List.cons.inj heq
        exact ⟨List.cons_ne_nil _ _, hcloses⟩
    | text content => simp [scanNesting]
    | closing => simp [scanNesting]

/-- The depth that `measure` answers is the highest level. -/
theorem eq_highest_of_measure (h : measure tokens = .ok depth) : depth = highest 0 tokens := by
  obtain ⟨name, attributes, rest, rfl, -, rfl⟩ :=
    singleElement_iff_closes.mp (measure_eq_ok_iff_singleElement.mp h)
  exact (highest_zero_opening name attributes rest).symm

/-- The single elements are the elements of the grammar, each with its least number of levels. -/
theorem singleElement_iff_isElement : SingleElement depth tokens ↔
    IsElement depth tokens ∧ ∀ levels, IsElement levels tokens → depth ≤ levels := by
  simp only [← measure_eq_ok_iff_singleElement, isElement_iff_measure]
  constructor
  · intro h
    refine ⟨⟨depth, h, Nat.le_refl depth⟩, fun levels hlevels => ?_⟩
    obtain ⟨found, hfound, hle⟩ := hlevels
    obtain rfl := Except.ok.inj (h.symm.trans hfound)
    exact hle
  · intro h
    obtain ⟨⟨found, hfound, hle⟩, hleast⟩ := h
    obtain rfl := Nat.le_antisymm hle (hleast found ⟨found, hfound, Nat.le_refl found⟩)
    exact hfound

end Verdict
