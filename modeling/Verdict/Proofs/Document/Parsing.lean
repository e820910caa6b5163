import Verdict.Proofs.Document.Lexeme

/-!
# Parsing accepts exactly the grammar

* `run_attributeRest_iff`, `run_moreAttributes_iff`, `run_attributesRest_iff`: attributes;
* `Ends`: what may be ahead once an element is over -- neither attributes nor a body;
* `elementText_of_run`, `run_of_elementText`: elements, in both directions;
* **`parse_eq_ok_iff`**: the texts that `parse` accepts and the tokens that it answers.

The parser decides by the next lexeme alone whether an optional part is there. That agrees with the
rules, which leave the choice open, because what follows an element never starts like such a part.
-/

namespace Verdict

namespace Grammar

open Consumer

/-! ## 1. Attributes -/

theorem run_attributeRest_iff {c : Char} {s rest : List Char} {a : Attribute} :
    (attributeRest c).run s = (.ok a, rest) ↔ AttributeText Name (c :: s) a rest := by
  unfold attributeRest
  constructor
  · intro h
    split at h
    · rename_i hc
      simp only [run_bind_eq_ok_iff, run_blanks_iff, run_symbol_iff, run_literalRest_iff,
        run_pure_eq_ok_iff] at h
      obtain ⟨name, s₁, hname, -, -, rfl, -, s₂, hequals, -, -, rfl, -, s₃, hquote, value, rest',
        ⟨content, hcontent, rfl⟩, rfl, rfl⟩ := h
      exact .mk (name_iff.mpr ⟨c, s, rfl, hc, hname⟩) ((blanks_iff rfl).mpr hequals)
        ((blanks_iff rfl).mpr hquote) hcontent
    · exact absurd h run_expectedAt_ne
  · intro h
    cases h with
    | mk hname hequals hquote hvalue =>
      obtain ⟨c', s', hs, hc, hrun⟩ := name_iff.mp hname
      obtain ⟨rfl, rfl⟩ := List.cons.inj hs
      rw [if_pos hc, run_bind_of_ok hrun, run_bind_of_ok (run_blanks _),
        (blanks_iff rfl).mp hequals, run_bind_of_ok (run_symbol _ _ _),
        run_bind_of_ok (run_blanks _), (blanks_iff rfl).mp hquote,
        run_bind_of_ok (run_symbol _ _ _),
        run_bind_of_ok (run_literalRest_iff.mpr ⟨_, hvalue, rfl⟩), run_pure]

/-- An attribute starts with its name. -/
theorem exists_start_of_attributeText {s rest : List Char} {a : Attribute}
    (h : AttributeText Name s a rest) : ∃ c s', s = c :: s' ∧ isNameStart c = true := by
  cases h with
  | mk hname =>
    obtain ⟨c, s', rfl, hc, -⟩ := name_iff.mp hname
    exact ⟨c, s', rfl, hc⟩

/-- Blanks and an attribute behind them, as the parser takes them. -/
theorem blanks_attributeText_iff {s rest : List Char} {a : Attribute} :
    (∃ s₁, Blanks s s₁ ∧ AttributeText Name s₁ a rest) ↔
      ∃ c s₁, skipBlanks s = c :: s₁ ∧ (attributeRest c).run s₁ = (.ok a, rest) := by
  constructor
  · intro h
    obtain ⟨s₁, hblanks, ha⟩ := h
    obtain ⟨c, s₂, rfl, hc⟩ := exists_start_of_attributeText ha
    exact ⟨c, s₂, (blanks_iff (startsLexeme_of_isNameStart hc)).mp hblanks,
      run_attributeRest_iff.mpr ha⟩
  · intro h
    obtain ⟨c, s₁, hs, ha⟩ := h
    exact ⟨c :: s₁, hs ▸ blanks_skipBlanks s, run_attributeRest_iff.mp ha⟩

/-- What the parser does with the first character behind an attribute. -/
def attributeItem (c : Char) : Phrase (Option Attribute) :=
  if c = ')' then return none
  else if c = ',' then return some (← attributeRest (← lexemeStart .attributeName))
  else expectedAt c .attributeEnd

theorem run_attributeItem_none_iff {c : Char} {s rest : List Char} :
    (attributeItem c).run s = (.ok none, rest) ↔ c = ')' ∧ rest = s := by
  unfold attributeItem
  by_cases hclose : c = ')'
  · simp [hclose, eq_comm]
  · rw [if_neg hclose]
    refine iff_of_false (fun h => ?_) fun h => hclose h.1
    split at h
    · simp [run_bind_eq_ok_iff] at h
    · exact run_expectedAt_ne h

theorem run_attributeItem_some_iff {c : Char} {s rest : List Char} {a : Attribute} :
    (attributeItem c).run s = (.ok (some a), rest) ↔
      c = ',' ∧ ∃ s₁, Blanks s s₁ ∧ AttributeText Name s₁ a rest := by
  rw [blanks_attributeText_iff]
  unfold attributeItem
  constructor
  · intro h
    split at h
    · simp at h
    · split at h
      · rename_i hc
        simp only [run_bind_eq_ok_iff, run_lexemeStart_iff, run_pure_eq_ok_iff] at h
        obtain ⟨d, s₁, hd, a', s₂, ha, hsome, rfl⟩ := h
        obtain rfl := Option.some.inj hsome
        exact ⟨hc, d, s₁, hd, ha⟩
      · exact absurd h run_expectedAt_ne
  · intro h
    obtain ⟨rfl, d, s₁, hd, ha⟩ := h
    rw [if_neg (by decide), if_pos rfl, run_bind_of_ok (run_lexemeStart_iff.mpr hd),
      run_bind_of_ok ha, run_pure]

/-- The attributes behind the first one. -/
theorem run_moreAttributes_iff {s rest : List Char} {as : List Attribute} :
    moreAttributes.run s = (.ok as, rest) ↔ MoreAttributesText Name s as rest := by
  show (items _ _ attributeItem).run s = _ ↔ _
  rw [run_items_eq_ok_iff]
  constructor
  · intro h
    induction h with
    | done taken ended =>
      obtain ⟨rfl, rfl⟩ := run_attributeItem_none_iff.mp ended
      exact .close ((blanks_iff rfl).mpr (run_lexemeStart_iff.mp taken))
    | more taken gave _ ih =>
      obtain ⟨rfl, s₁, hblanks, ha⟩ := run_attributeItem_some_iff.mp gave
      exact .more ((blanks_iff rfl).mpr (run_lexemeStart_iff.mp taken)) hblanks ha ih
  · intro h
    induction h with
    | close h =>
      exact .done (run_lexemeStart_iff.mpr ((blanks_iff rfl).mp h))
        (run_attributeItem_none_iff.mpr ⟨rfl, rfl⟩)
    | more hcomma hblanks ha _ ih =>
      exact .more (run_lexemeStart_iff.mpr ((blanks_iff rfl).mp hcomma))
        (run_attributeItem_some_iff.mpr ⟨rfl, _, hblanks, ha⟩) ih

/-- The attributes behind an opening parenthesis. -/
theorem run_attributesRest_iff {s rest : List Char} {as : List Attribute} :
    attributesRest.run s = (.ok as, rest) ↔
      (as = [] ∧ Blanks s (')' :: rest)) ∨
        ∃ a as' s₁ s₂, as = a :: as' ∧ Blanks s s₁ ∧ AttributeText Name s₁ a s₂ ∧
          MoreAttributesText Name s₂ as' rest := by
  unfold attributesRest
  constructor
  · intro h
    rw [run_bind_eq_ok_iff] at h
    obtain ⟨c, s₁, hc, h⟩ := h
    rw [run_lexemeStart_iff] at hc
    split at h
    · rename_i hclose
      obtain ⟨rfl, rfl⟩ := run_pure_eq_ok_iff.mp h
      exact .inl ⟨rfl, (blanks_iff (c := ')') rfl).mpr (hclose ▸ hc)⟩
    · simp only [run_bind_eq_ok_iff, run_pure_eq_ok_iff] at h
      obtain ⟨a, s₂, ha, as', s₃, has, rfl, rfl⟩ := h
      obtain ⟨s₄, hblanks, ha⟩ := blanks_attributeText_iff.mpr ⟨c, s₁, hc, ha⟩
      exact .inr ⟨a, as', s₄, s₂, rfl, hblanks, ha, run_moreAttributes_iff.mp has⟩
  · intro h
    rcases h with ⟨rfl, hclose⟩ | ⟨a, as', s₁, s₂, rfl, hblanks, ha, has⟩
    · rw [run_bind_of_ok (run_lexemeStart_iff.mpr ((blanks_iff rfl).mp hclose)), if_pos rfl,
        run_pure]
    · obtain ⟨c, s₃, rfl, hc⟩ := exists_start_of_attributeText ha
      have hstart := (blanks_iff (startsLexeme_of_isNameStart hc)).mp hblanks
      rw [run_bind_of_ok (run_lexemeStart_iff.mpr hstart),
        if_neg (ne_of_isNameStart hc rfl), run_bind_of_ok (run_attributeRest_iff.mpr ha),
        run_bind_of_ok (run_moreAttributes_iff.mpr has), run_pure]

/-! ## 2. Optional parts -/

section Optional

variable {α : Type} {c : Char} {absent a : α} {phrase : Phrase α} {s rest : List Char}

/-- An optional part is absent, or it is there behind the character that announces it. -/
theorem run_afterSymbol_iff :
    (afterSymbol c absent phrase).run s = (.ok a, rest) ↔
      ((∀ s', skipBlanks s ≠ c :: s') ∧ a = absent ∧ rest = s) ∨
        ∃ s', skipBlanks s = c :: s' ∧ phrase.run s' = (.ok a, rest) := by
  simp only [afterSymbol]
  cases hs : skipBlanks s with
  | nil => simp [eq_comm]
  | cons d s' =>
    by_cases hd : d = c
    · simp [hd]
    · simp [hd, eq_comm (a := s), eq_comm (a := a)]

end Optional

/-- What may be ahead once an element is over: neither attributes nor a body. -/
def Ends (rest : List Char) : Prop :=
  (∀ s, skipBlanks rest ≠ '(' :: s) ∧ ∀ s, skipBlanks rest ≠ '\x7b' :: s

theorem ends_of_blanks_nil {rest : List Char} (h : Blanks rest []) : Ends rest := by
  unfold Ends
  rw [blanks_nil_iff.mp h]
  exact ⟨fun s => (List.cons_ne_nil '(' s).symm, fun s => (List.cons_ne_nil _ s).symm⟩

theorem ends_of_skipBlanks {s rest : List Char} {c : Char} (h : skipBlanks s = c :: rest)
    (hparen : c ≠ '(') (hbrace : c ≠ '\x7b') : Ends s := by
  constructor <;> intro s' hs <;> rw [h] at hs
  · exact hparen (List.cons.inj hs).1
  · exact hbrace (List.cons.inj hs).1

theorem attributesText_of_run {s rest : List Char} {as : List Attribute}
    (h : (afterSymbol '(' [] attributesRest).run s = (.ok as, rest)) :
    AttributesText Name s as rest := by
  rcases run_afterSymbol_iff.mp h with ⟨-, rfl, rfl⟩ | ⟨s₁, hopen, h⟩
  · exact .absent _
  · have hopen := (blanks_iff (c := '(') rfl).mpr hopen
    rcases run_attributesRest_iff.mp h with ⟨rfl, hclose⟩ | ⟨a, as', s₂, s₃, rfl, hblanks, ha, has⟩
    · exact .empty hopen hclose
    · exact .some hopen hblanks ha has

theorem run_of_attributesText {s rest : List Char} {as : List Attribute}
    (h : AttributesText Name s as rest) (hrest : ∀ s', skipBlanks rest ≠ '(' :: s') :
    (afterSymbol '(' [] attributesRest).run s = (.ok as, rest) := by
  refine run_afterSymbol_iff.mpr ?_
  cases h with
  | absent => exact .inl ⟨hrest, rfl, rfl⟩
  | empty hopen hclose =>
    exact .inr ⟨_, (blanks_iff rfl).mp hopen, run_attributesRest_iff.mpr (.inl ⟨rfl, hclose⟩)⟩
  | some hopen hblanks ha has =>
    exact .inr ⟨_, (blanks_iff rfl).mp hopen,
      run_attributesRest_iff.mpr (.inr ⟨_, _, _, _, rfl, hblanks, ha, has⟩)⟩

/-! ## 3. Elements -/

/-- What the parser does with the first character of an item of a body. -/
def bodyItem (child : Char → Phrase (List Token)) (c : Char) : Phrase (Option (List Token)) :=
  if c = '\x7d' then return none
  else if c = '"' then return some [.text (← literalRest .textEnd)]
  else if isNameStart c then return some (← child c)
  else expectedAt c .bodyItem

section Body

variable {child : Char → Phrase (List Token)} {c : Char} {s rest : List Char}

theorem run_bodyItem_none_iff :
    (bodyItem child c).run s = (.ok none, rest) ↔ c = '\x7d' ∧ rest = s := by
  unfold bodyItem
  by_cases hclose : c = '\x7d'
  · simp [hclose, eq_comm]
  · rw [if_neg hclose]
    refine iff_of_false (fun h => ?_) fun h => hclose h.1
    split at h
    · simp [run_bind_eq_ok_iff] at h
    · split at h
      · simp [run_bind_eq_ok_iff] at h
      · exact run_expectedAt_ne h

theorem run_bodyItem_some_iff {tokens : List Token} :
    (bodyItem child c).run s = (.ok (some tokens), rest) ↔
      (c = '"' ∧ ∃ content, Quoted s content rest ∧ tokens = [.text (String.ofList content)]) ∨
        (isNameStart c = true ∧ (child c).run s = (.ok tokens, rest)) := by
  unfold bodyItem
  constructor
  · intro h
    split at h
    · simp at h
    · split at h
      · rename_i hc
        simp only [run_bind_eq_ok_iff, run_literalRest_iff, run_pure_eq_ok_iff] at h
        obtain ⟨value, s₁, ⟨content, hcontent, rfl⟩, htokens, rfl⟩ := h
        exact .inl ⟨hc, content, hcontent, Option.some.inj htokens⟩
      · split at h
        · rename_i hc
          simp only [run_bind_eq_ok_iff, run_pure_eq_ok_iff] at h
          obtain ⟨tokens', s₁, hrun, htokens, rfl⟩ := h
          exact .inr ⟨hc, Option.some.inj htokens ▸ hrun⟩
        · exact absurd h run_expectedAt_ne
  · intro h
    rcases h with ⟨rfl, content, hcontent, rfl⟩ | ⟨hc, hrun⟩
    · rw [if_neg (by decide), if_pos rfl,
        run_bind_of_ok (run_literalRest_iff.mpr ⟨content, hcontent, rfl⟩), run_pure]
    · rw [if_neg (ne_of_isNameStart hc rfl), if_neg (ne_of_isNameStart hc rfl), if_pos hc,
        run_bind_of_ok hrun, run_pure]

/-- The rounds of a body. -/
theorem run_bodyRest_iff {body : List Token} :
    (bodyRest child).run s = (.ok body, rest) ↔
      ∃ items, Gathers (lexemeStart .bodyItem) (bodyItem child) s items rest ∧
        body = items.flatten := by
  unfold bodyRest
  simp only [run_bind_eq_ok_iff, run_pure_eq_ok_iff]
  constructor
  · intro h
    obtain ⟨items, rest', hitems, rfl, rfl⟩ := h
    exact ⟨items, (run_items_eq_ok_iff _).mp hitems, rfl⟩
  · intro h
    obtain ⟨items, hitems, rfl⟩ := h
    exact ⟨items, rest, (run_items_eq_ok_iff _).mpr hitems, rfl, rfl⟩

/-- A body is one if its child elements are elements. -/
theorem itemsText_of_gathers {levels : Nat}
    (hchild : ∀ {c : Char} {s : List Char} {tokens : List Token} {rest : List Char},
      isNameStart c = true → (child c).run s = (.ok tokens, rest) →
        ElementText Name levels (c :: s) tokens rest) {items : List (List Token)}
    (h : Gathers (lexemeStart .bodyItem) (bodyItem child) s items rest) :
    ItemsText Name levels s items.flatten rest := by
  induction h with
  | done taken ended =>
    obtain ⟨rfl, rfl⟩ := run_bodyItem_none_iff.mp ended
    exact .close ((blanks_iff rfl).mpr (run_lexemeStart_iff.mp taken))
  | more taken gave _ ih =>
    have taken := run_lexemeStart_iff.mp taken
    rw [List.flatten_cons]
    rcases run_bodyItem_some_iff.mp gave with ⟨rfl, content, hcontent, rfl⟩ | ⟨hc, hrun⟩
    · exact .string ((blanks_iff rfl).mpr taken) hcontent ih
    · exact .element (taken ▸ blanks_skipBlanks _) (hchild hc hrun) ih

end Body

/-- **What the parser reads as an element is one.** The recursion is the one on the levels left. -/
theorem elementText_of_run {levels : Nat} {c : Char} {s rest : List Char} {tokens : List Token}
    (hc : isNameStart c = true) (h : (elementRest levels c).run s = (.ok tokens, rest)) :
    ElementText Name levels (c :: s) tokens rest := by
  induction levels generalizing c s tokens rest with
  | zero => exact absurd h run_expectedAt_ne
  | succ levels ih =>
    rw [elementRest] at h
    simp only [run_bind_eq_ok_iff, run_pure_eq_ok_iff] at h
    obtain ⟨name, s₁, hname, attributes, s₂, hattributes, body, s₃, hbody, rfl, rfl⟩ := h
    have hname := name_iff.mpr ⟨c, s, rfl, hc, hname⟩
    have hattributes := attributesText_of_run hattributes
    rcases run_afterSymbol_iff.mp hbody with ⟨-, rfl, rfl⟩ | ⟨s₄, hopen, hbody⟩
    · exact .bare hname hattributes
    · obtain ⟨items, hitems, rfl⟩ := run_bodyRest_iff.mp hbody
      have hbody := itemsText_of_gathers ih hitems
      exact .braced hname hattributes ((blanks_iff (c := '\x7b') rfl).mpr hopen)
        hbody

/-- An element starts with its name. -/
theorem exists_start_of_elementText {levels : Nat} {s rest : List Char} {tokens : List Token}
    (h : ElementText Name levels s tokens rest) : ∃ c s', s = c :: s' ∧ isNameStart c = true := by
  cases h with
  | bare hname =>
    obtain ⟨c, s', rfl, hc, -⟩ := name_iff.mp hname
    exact ⟨c, s', rfl, hc⟩
  | braced hname =>
    obtain ⟨c, s', rfl, hc, -⟩ := name_iff.mp hname
    exact ⟨c, s', rfl, hc⟩

/-- Whatever goes on in a body, an element before it is over. -/
theorem ends_of_itemsText {levels : Nat} {s rest : List Char} {body : List Token}
    (h : ItemsText Name levels s body rest) : Ends s := by
  cases h with
  | close h => exact ends_of_skipBlanks ((blanks_iff rfl).mp h) (by decide) (by decide)
  | string h => exact ends_of_skipBlanks ((blanks_iff rfl).mp h) (by decide) (by decide)
  | element hblanks helement =>
    obtain ⟨c, s', rfl, hc⟩ := exists_start_of_elementText helement
    exact ends_of_skipBlanks ((blanks_iff (startsLexeme_of_isNameStart hc)).mp hblanks)
      (ne_of_isNameStart hc rfl) (ne_of_isNameStart hc rfl)

mutual

/-- **An element is read as its rules say**, if what is ahead of its end ends it. -/
theorem run_of_elementText {levels : Nat} {s rest : List Char} {tokens : List Token}
    (h : ElementText Name levels s tokens rest) (hrest : Ends rest) :
    ∃ c s', s = c :: s' ∧ isNameStart c = true ∧
      (elementRest levels c).run s' = (.ok tokens, rest) := by
  match h with
  | .bare hname hattributes =>
    obtain ⟨c, s', rfl, hc, hrun⟩ := name_iff.mp hname
    refine ⟨c, s', rfl, hc, ?_⟩
    rw [elementRest, run_bind_of_ok hrun,
      run_bind_of_ok (run_of_attributesText hattributes hrest.1),
      run_bind_of_ok (run_afterSymbol_iff.mpr (.inl ⟨hrest.2, rfl, rfl⟩)), run_pure]
    rfl
  | .braced hname hattributes hopen hbody =>
    obtain ⟨c, s', rfl, hc, hrun⟩ := name_iff.mp hname
    have hbody := run_bodyRest_iff.mpr (gathers_of_itemsText hbody)
    have hopen := (blanks_iff rfl).mp hopen
    have hparen : ∀ s', skipBlanks _ ≠ '(' :: s' := fun s' hs' => by
      rw [hopen] at hs'
      exact absurd (List.cons.inj hs').1 (by decide)
    refine ⟨c, s', rfl, hc, ?_⟩
    rw [elementRest, run_bind_of_ok hrun,
      run_bind_of_ok (run_of_attributesText hattributes hparen),
      run_bind_of_ok (run_afterSymbol_iff.mpr (.inr ⟨_, hopen, hbody⟩)), run_pure]

/-- A body is read as its rules say. -/
theorem gathers_of_itemsText {levels : Nat} {s rest : List Char} {body : List Token}
    (h : ItemsText Name levels s body rest) :
    ∃ items, Gathers (lexemeStart .bodyItem) (bodyItem (elementRest levels)) s items rest ∧
      body = items.flatten := by
  match h with
  | .close h =>
    exact ⟨[], .done (run_lexemeStart_iff.mpr ((blanks_iff rfl).mp h))
      (run_bodyItem_none_iff.mpr ⟨rfl, rfl⟩), rfl⟩
  | .string hquote hcontent hothers =>
    obtain ⟨items, hitems, hothers⟩ := gathers_of_itemsText hothers
    exact ⟨_ :: items, .more (run_lexemeStart_iff.mpr ((blanks_iff rfl).mp hquote))
      (run_bodyItem_some_iff.mpr (.inl ⟨rfl, _, hcontent, rfl⟩)) hitems, by rw [hothers]; rfl⟩
  | .element hblanks helement hothers =>
    obtain ⟨c, s', rfl, hc, hrun⟩ := run_of_elementText helement (ends_of_itemsText hothers)
    obtain ⟨items, hitems, hothers⟩ := gathers_of_itemsText hothers
    have hstart := (blanks_iff (startsLexeme_of_isNameStart hc)).mp hblanks
    exact ⟨_ :: items, .more (run_lexemeStart_iff.mpr hstart)
      (run_bodyItem_some_iff.mpr (.inr ⟨hc, hrun⟩)) hitems, by rw [hothers]; rfl⟩

end

/-! ## 4. Documents -/

theorem run_document_iff {s : List Char} {tokens : List Token} :
    document.run s = (.ok tokens, []) ↔ DocumentText Name s tokens := by
  unfold document
  constructor
  · intro h
    rw [run_bind_eq_ok_iff] at h
    obtain ⟨c, s₁, hstart, h⟩ := h
    rw [run_lexemeStart_iff] at hstart
    split at h
    · rename_i hc
      simp only [run_bind_eq_ok_iff, run_blanks_iff, run_pure_eq_ok_iff] at h
      obtain ⟨tokens', s₂, hrun, -, s₃, rfl, rfl, hafter⟩ := h
      exact .mk (hstart ▸ blanks_skipBlanks s) (elementText_of_run hc hrun)
        (blanks_nil_iff.mpr hafter.symm)
    · exact absurd h run_expectedAt_ne
  · intro h
    obtain ⟨hbefore, helement, hafter⟩ := h
    obtain ⟨c, s₁, rfl, hc, hrun⟩ := run_of_elementText helement (ends_of_blanks_nil hafter)
    have hstart := (blanks_iff (startsLexeme_of_isNameStart hc)).mp hbefore
    rw [run_bind_of_ok (run_lexemeStart_iff.mpr hstart), if_pos hc, run_bind_of_ok hrun,
      run_bind_of_ok (run_blanks _), run_pure, blanks_nil_iff.mp hafter]

end Grammar

open Grammar

/-- **`parse` answers the tokens that the rules give a text**, with identifiers as long as they
    are. -/
theorem parse_eq_ok_iff {text : String} {tokens : List Token} :
    parse text = .ok tokens ↔ DocumentText Name text.toList tokens := by
  rw [← run_document_iff]
  unfold parse
  dsimp only
  split <;> rename_i h <;> simp_all

theorem exists_malformed_of_parse_error {text : String} {e : DocumentError}
    (h : parse text = .error e) : ∃ detail, e = .malformed detail := by
  unfold parse at h
  dsimp only at h
  split at h
  · cases h
  · exact ⟨_, (Except.error.inj h).symm⟩
  · exact ⟨_, (Except.error.inj h).symm⟩

end Verdict
