import Verdict.Proofs.Document.Parsing

/-!
# Where identifiers end

With identifiers that may end anywhere (`Ident`), the rules give some texts several token lists:
`ab` in a body is one element, or two elements that touch. With identifiers that end only where they
must (`Name`), they give every text at most one. This file says that they accept the same texts:

* `Continues`: an identifier could go on;
* `name_of_ident`, `exists_name_of_ident`: identifiers and names;
* `exists_itemsText_of_ident`: an identifier before a body makes the next element's name longer;
* `exists_documentText_name`: a text that has any derivation has one with names;
* **`parse_iff_documentText`**: `parse` accepts exactly the texts that have a derivation, with the
  tokens of the one with names.
-/

namespace Verdict

namespace Grammar

/-- An identifier that ends here could go on. -/
def Continues (rest : List Char) : Prop :=
  ∃ d behind, rest = d :: behind ∧ isNamePart d = true

theorem not_continues_iff {rest : List Char} :
    ¬Continues rest ↔ ∀ d, rest.head? = some d → isNamePart d = false := by
  cases rest with
  | nil => exact iff_of_true (fun ⟨d, behind, h, _⟩ => nomatch h) fun d hd => nomatch hd
  | cons c rest => simp [Continues]

/-! ## 1. Identifiers and names -/

theorem isNamePart_of_isNameStart {c : Char} (h : isNameStart c = true) : isNamePart c = true := by
  simp only [isNameStart, isNamePart, Char.isAlphanum, Bool.or_eq_true] at h ⊢
  rcases h with h | h
  · exact .inl (.inl (.inl (.inl (.inl h))))
  · exact .inl (.inl (.inl (.inr h)))

theorem covers_name : Covers Ident Name := by
  intro s name rest h
  cases h with
  | mk hc hpart => exact .mk hc hpart

theorem name_of_ident {s rest : List Char} {name : String} (h : Ident s name rest)
    (hrest : ¬Continues rest) : Name s name rest := by
  cases h with
  | mk hc hpart => exact .mk hc hpart (not_continues_iff.mp hrest)

/-- An identifier and a name behind it are one name. -/
theorem exists_name_of_ident {s s₁ rest : List Char} {name name₁ : String}
    (h : Ident s name s₁) (h₁ : Name s₁ name₁ rest) : ∃ name₂, Name s name₂ rest := by
  cases h with
  | @mk c part _ hc hpart =>
    cases h₁ with
    | @mk c₁ part₁ _ hc₁ hpart₁ hend =>
      have hall : ∀ d ∈ part ++ c₁ :: part₁, isNamePart d = true := by
        intro d hd
        rcases List.mem_append.mp hd with hd | hd
        · exact hpart d hd
        · rcases List.mem_cons.mp hd with rfl | hd
          · exact isNamePart_of_isNameStart hc₁
          · exact hpart₁ d hd
      have hname := Name.mk hc hall hend
      exact ⟨_, by simpa using hname⟩

/-! ## 2. Blanks -/

/-- Where an identifier could go on, there are no blanks. -/
theorem eq_of_blanks_of_continues {s rest : List Char} (h : Blanks s rest) (hs : Continues s) :
    rest = s := by
  obtain ⟨d, behind, rfl, hd⟩ := hs
  cases h with
  | none => rfl
  | space hc =>
    simp only [List.mem_cons, List.not_mem_nil, or_false] at hc
    rcases hc with rfl | rfl | rfl | rfl | rfl <;> cases hd
  | comment => cases hd

theorem not_continues_of_blanks {c : Char} (hc : isNamePart c = false) {s rest : List Char}
    (h : Blanks s (c :: rest)) : ¬Continues s := by
  intro hs
  have heq := eq_of_blanks_of_continues h hs
  obtain ⟨d, behind, rfl, hd⟩ := hs
  obtain rfl := (List.cons.inj heq).1
  rw [hc] at hd
  cases hd

/-! ## 3. Attributes -/

theorem attributeText_name {s rest : List Char} {a : Attribute} (h : AttributeText Ident s a rest) :
    AttributeText Name s a rest := by
  cases h with
  | mk hname hequals hquote hvalue =>
    exact .mk (name_of_ident hname (not_continues_of_blanks rfl hequals)) hequals hquote hvalue

theorem moreAttributesText_name {s rest : List Char} {as : List Attribute}
    (h : MoreAttributesText Ident s as rest) : MoreAttributesText Name s as rest := by
  induction h with
  | close h => exact .close h
  | more hcomma hblanks ha _ ih => exact .more hcomma hblanks (attributeText_name ha) ih

theorem attributesText_name {s rest : List Char} {as : List Attribute}
    (h : AttributesText Ident s as rest) : AttributesText Name s as rest := by
  cases h with
  | absent => exact .absent _
  | empty hopen hclose => exact .empty hopen hclose
  | some hopen hblanks ha has =>
    exact .some hopen hblanks (attributeText_name ha) (moreAttributesText_name has)

theorem not_continues_of_attributesText {s rest : List Char} {as : List Attribute}
    (h : AttributesText Ident s as rest) (hrest : ¬Continues rest) : ¬Continues s := by
  cases h with
  | absent => exact hrest
  | empty hopen => exact not_continues_of_blanks rfl hopen
  | some hopen => exact not_continues_of_blanks rfl hopen

/-! ## 4. Elements -/

/-- An identifier that touches a body is the beginning of the name of its first element. -/
theorem exists_itemsText_of_ident {levels : Nat} {s s₁ rest : List Char} {name : String}
    {body : List Token} (hname : Ident s name s₁) (hs₁ : Continues s₁)
    (h : ItemsText Name levels s₁ body rest) : ∃ longer, ItemsText Name levels s longer rest := by
  cases h with
  | close h => exact absurd hs₁ (not_continues_of_blanks rfl h)
  | string hquote => exact absurd hs₁ (not_continues_of_blanks rfl hquote)
  | element hblanks helement hothers =>
    obtain rfl := eq_of_blanks_of_continues hblanks hs₁
    cases helement with
    | bare hname₁ hattributes =>
      obtain ⟨name₂, hname₂⟩ := exists_name_of_ident hname hname₁
      exact ⟨_, .element (.none _) (.bare hname₂ hattributes) hothers⟩
    | braced hname₁ hattributes hopen hbody =>
      obtain ⟨name₂, hname₂⟩ := exists_name_of_ident hname hname₁
      exact ⟨_, .element (.none _) (.braced hname₂ hattributes hopen hbody) hothers⟩

mutual

/-- An element has a derivation with names, unless it is a bare identifier that could go on. -/
theorem exists_elementText_name {levels : Nat} {s rest : List Char} {tokens : List Token}
    (h : ElementText Ident levels s tokens rest) :
    (∃ named, ElementText Name levels s named rest) ∨
      Continues rest ∧ ∃ name, Ident s name rest := by
  match h with
  | .bare hname hattributes =>
    by_cases hrest : Continues rest
    · cases hattributes with
      | absent => exact .inr ⟨hrest, _, hname⟩
      | empty hopen hclose =>
        exact .inl ⟨_, .bare (name_of_ident hname (not_continues_of_blanks rfl hopen))
          (.empty hopen hclose)⟩
      | some hopen hblanks ha has =>
        exact .inl ⟨_, .bare (name_of_ident hname (not_continues_of_blanks rfl hopen))
          (attributesText_name (.some hopen hblanks ha has))⟩
    · have hname := name_of_ident hname (not_continues_of_attributesText hattributes hrest)
      exact .inl ⟨_, .bare hname (attributesText_name hattributes)⟩
  | .braced hname hattributes hopen hbody =>
    obtain ⟨named, hnamed⟩ := exists_itemsText_name hbody
    have hbrace := not_continues_of_blanks rfl hopen
    have hname := name_of_ident hname (not_continues_of_attributesText hattributes hbrace)
    exact .inl ⟨_, .braced hname (attributesText_name hattributes) hopen hnamed⟩

/-- A body has a derivation with names: elements that touch become one. -/
theorem exists_itemsText_name {levels : Nat} {s rest : List Char} {body : List Token}
    (h : ItemsText Ident levels s body rest) : ∃ named, ItemsText Name levels s named rest := by
  match h with
  | .close h => exact ⟨[], .close h⟩
  | .string hquote hcontent hothers =>
    obtain ⟨named, hnamed⟩ := exists_itemsText_name hothers
    exact ⟨_, .string hquote hcontent hnamed⟩
  | .element hblanks helement hothers =>
    obtain ⟨named, hnamed⟩ := exists_itemsText_name hothers
    rcases exists_elementText_name helement with ⟨element, helement⟩ | ⟨hrest, name, hname⟩
    · exact ⟨_, .element hblanks helement hnamed⟩
    · obtain ⟨longer, hlonger⟩ := exists_itemsText_of_ident hname hrest hnamed
      exact ⟨longer, itemsText_of_blanks hblanks hlonger⟩

end

/-- A text that has any derivation has one with names. -/
theorem exists_documentText_name {s : List Char} {tokens : List Token}
    (h : DocumentText Ident s tokens) : ∃ named, DocumentText Name s named := by
  cases h with
  | mk hbefore helement hafter =>
    rcases exists_elementText_name helement with ⟨named, hnamed⟩ | ⟨hrest, -⟩
    · exact ⟨named, .mk hbefore hnamed hafter⟩
    · have heq := eq_of_blanks_of_continues hafter hrest
      obtain ⟨d, behind, rfl, -⟩ := hrest
      cases heq

end Grammar

open Grammar

/-- **`parse` accepts exactly the texts of the grammar**, with the tokens of the derivation whose
    identifiers are as long as they are, and answers a syntax error to every other text. -/
theorem parse_iff_documentText (text : String) :
    (∀ tokens, parse text = .ok tokens ↔ DocumentText Name text.toList tokens) ∧
      ((∃ tokens, parse text = .ok tokens) ↔ ∃ tokens, DocumentText Ident text.toList tokens) ∧
      ((∃ tokens, parse text = .ok tokens) ∨
        ∃ detail, parse text = .error (.malformed detail)) := by
  refine ⟨fun tokens => parse_eq_ok_iff, ⟨?_, ?_⟩, ?_⟩
  · intro h
    obtain ⟨tokens, h⟩ := h
    exact ⟨tokens, (parse_eq_ok_iff.mp h).mono covers_name⟩
  · intro h
    obtain ⟨tokens, h⟩ := h
    obtain ⟨named, hnamed⟩ := exists_documentText_name h
    exact ⟨named, parse_eq_ok_iff.mpr hnamed⟩
  · cases h : parse text with
    | ok tokens => exact .inl ⟨tokens, rfl⟩
    | error e =>
      obtain ⟨detail, rfl⟩ := exists_malformed_of_parse_error h
      exact .inr ⟨detail, rfl⟩

end Verdict
