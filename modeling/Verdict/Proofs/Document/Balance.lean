import Verdict.Proofs.Document.Derivation

/-!
# Token lists that are documents

* `Balanced levels`: the tokens of a body -- texts and whole elements, at most so many levels deep;
* `IsElement levels`: the tokens of exactly one element;
* `isName`, `Token.isNamed`: the names that the text format can write;
* `WellFormed`: one element, not too deep, with such names only;
* **`wellFormed_of_documentText`**: the tokens of a text document are well-formed.
-/

namespace Verdict

/-! ## 1. Balance -/

/-- The tokens of a body: texts and whole elements, with at most `levels` levels of elements. -/
inductive Balanced : Nat → List Token → Prop
  | nil {levels : Nat} : Balanced levels []
  | text {levels : Nat} {content : String} {rest : List Token} (hrest : Balanced levels rest) :
      Balanced levels (.text content :: rest)
  | element {levels : Nat} {name : String} {attributes : List Attribute} {body rest : List Token}
      (hbody : Balanced levels body) (hrest : Balanced (levels + 1) rest) :
      Balanced (levels + 1) (.opening name attributes :: body ++ .closing :: rest)

/-- The tokens of exactly one element, with at most `levels` levels of elements, itself included. -/
inductive IsElement : Nat → List Token → Prop
  | mk {levels : Nat} {name : String} {attributes : List Attribute} {body : List Token}
      (hbody : Balanced levels body) :
      IsElement (levels + 1) (.opening name attributes :: body ++ [.closing])

/-- An element before a body is a longer body. -/
theorem balanced_of_isElement {levels : Nat} {element rest : List Token}
    (h : IsElement levels element) (hrest : Balanced levels rest) :
    Balanced levels (element ++ rest) := by
  cases h with
  | mk hbody =>
    rw [List.append_assoc]
    exact .element hbody hrest

/-! ## 2. Names -/

/-- The names that the text format can write. -/
def isName (name : String) : Bool :=
  match name.toList with
  | [] => false
  | c :: part => Grammar.isNameStart c && part.all Grammar.isNamePart

/-- Tokens all of whose names the text format can write. -/
def Token.isNamed : Token → Bool
  | .opening name attributes => isName name && attributes.all fun a => isName a.name
  | .text _ => true
  | .closing => true

theorem isName_iff {name : String} :
    isName name = true ↔ ∃ c part, name.toList = c :: part ∧ Grammar.isNameStart c = true ∧
      ∀ d ∈ part, Grammar.isNamePart d = true := by
  unfold isName
  cases name.toList with
  | nil => simp
  | cons c part =>
    rw [Bool.and_eq_true, List.all_eq_true]
    constructor
    · intro h
      obtain ⟨hc, hpart⟩ := h
      exact ⟨c, part, rfl, hc, hpart⟩
    · intro h
      obtain ⟨c', part', h, hc, hpart⟩ := h
      obtain ⟨rfl, rfl⟩ := List.cons.inj h
      exact ⟨hc, hpart⟩

/-- One element of at most `maxNesting` levels, whose names the text format can write. -/
structure WellFormed (tokens : List Token) : Prop where
  isElement : IsElement maxNesting tokens
  isNamed : ∀ token ∈ tokens, token.isNamed = true

/-! ## 3. What the grammar says -/

namespace Grammar

theorem isName_of_name {s rest : List Char} {name : String} (h : Name s name rest) :
    isName name = true := by
  cases h with
  | mk hc hpart => exact isName_iff.mpr ⟨_, _, String.toList_ofList, hc, hpart⟩

/-- A name that the text format can write is one where no further character of a name follows. -/
theorem name_of_isName {name : String} (h : isName name = true) {rest : List Char}
    (hrest : ∀ d, rest.head? = some d → isNamePart d = false) :
    Name (name.toList ++ rest) name rest := by
  obtain ⟨c, part, hname, hc, hpart⟩ := isName_iff.mp h
  have h := Name.mk hc hpart hrest
  rwa [← hname, String.ofList_toList] at h

theorem isName_of_attributeText {s rest : List Char} {a : Attribute}
    (h : AttributeText Name s a rest) : isName a.name = true := by
  cases h with
  | mk hname => exact isName_of_name hname

theorem isName_of_moreAttributesText {s rest : List Char} {as : List Attribute}
    (h : MoreAttributesText Name s as rest) : ∀ a ∈ as, isName a.name = true := by
  induction h with
  | close => simp
  | more _ _ ha _ ih =>
    intro b hb
    rcases List.mem_cons.mp hb with rfl | hb
    · exact isName_of_attributeText ha
    · exact ih b hb

theorem isName_of_attributesText {s rest : List Char} {as : List Attribute}
    (h : AttributesText Name s as rest) : ∀ a ∈ as, isName a.name = true := by
  cases h with
  | absent => simp
  | empty => simp
  | some _ _ ha has =>
    intro b hb
    rcases List.mem_cons.mp hb with rfl | hb
    · exact isName_of_attributeText ha
    · exact isName_of_moreAttributesText has b hb

/-- The opening tag of an element has names that can be written. -/
theorem isNamed_opening {s s₁ rest : List Char} {name : String} {attributes : List Attribute}
    (hname : Name s name s₁) (hattributes : AttributesText Name s₁ attributes rest) :
    (Token.opening name attributes).isNamed = true := by
  show (isName name && attributes.all fun a => isName a.name) = true
  rw [isName_of_name hname, Bool.true_and, List.all_eq_true]
  exact isName_of_attributesText hattributes

mutual

/-- The tokens of an element are one. -/
theorem isElement_of_elementText {levels : Nat} {s rest : List Char} {tokens : List Token}
    (h : ElementText Name levels s tokens rest) :
    IsElement levels tokens ∧ ∀ token ∈ tokens, token.isNamed = true := by
  match h with
  | .bare hname hattributes =>
    refine ⟨.mk .nil, fun token ht => ?_⟩
    simp only [List.mem_cons, List.not_mem_nil, or_false] at ht
    rcases ht with rfl | rfl
    · exact isNamed_opening hname hattributes
    · rfl
  | .braced hname hattributes _ hbody =>
    obtain ⟨hbalanced, hnamed⟩ := balanced_of_itemsText hbody
    refine ⟨.mk hbalanced, fun token ht => ?_⟩
    simp only [List.cons_append, List.mem_cons, List.mem_append, List.not_mem_nil, or_false] at ht
    rcases ht with rfl | ht | rfl
    · exact isNamed_opening hname hattributes
    · exact hnamed token ht
    · rfl

/-- The tokens of a body are balanced. -/
theorem balanced_of_itemsText {levels : Nat} {s rest : List Char} {body : List Token}
    (h : ItemsText Name levels s body rest) :
    Balanced levels body ∧ ∀ token ∈ body, token.isNamed = true := by
  match h with
  | .close _ => exact ⟨.nil, by simp⟩
  | .string _ _ hothers =>
    obtain ⟨hbalanced, hnamed⟩ := balanced_of_itemsText hothers
    refine ⟨.text hbalanced, fun token ht => ?_⟩
    rcases List.mem_cons.mp ht with rfl | ht
    · rfl
    · exact hnamed token ht
  | .element _ helement hothers =>
    obtain ⟨helement, hnamed⟩ := isElement_of_elementText helement
    obtain ⟨hbalanced, hnamed'⟩ := balanced_of_itemsText hothers
    refine ⟨balanced_of_isElement helement hbalanced, fun token ht => ?_⟩
    rcases List.mem_append.mp ht with ht | ht
    · exact hnamed token ht
    · exact hnamed' token ht

end

/-- **The tokens of a text document are well-formed.** -/
theorem wellFormed_of_documentText {s : List Char} {tokens : List Token}
    (h : DocumentText Name s tokens) : WellFormed tokens := by
  cases h with
  | mk _ helement _ =>
    obtain ⟨hisElement, hisNamed⟩ := isElement_of_elementText helement
    exact ⟨hisElement, hisNamed⟩

end Grammar

end Verdict
