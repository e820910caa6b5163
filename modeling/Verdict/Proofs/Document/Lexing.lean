import Verdict.Proofs.Document.Parsing

/-!
# The grammar in two stages

The rules of the grammar speak of characters, with blanks between the lexemes. Here a text falls
into lexemes first, and the lexemes alone decide whether it is a document, and which.

* `Lexeme`, `LexemeText`: a name, a sign or a string, and where it stands in a text;
* `Lexed`: lexemes in a row, with blanks around them, and the characters behind;
* `lexemeText_unique`, `Lexed.exists_behind`: lexemes can be taken from a text in one way only;
* `AttributesLexemes`, `ElementLexemes`, `ItemsLexemes`: the grammar without blanks;
* **`documentText_iff_lexemes`**: a text is a document if it falls into the lexemes of one.
-/

namespace Verdict.Grammar

/-! ## 1. Lexemes -/

/-- The smallest parts of a document. A string is kept as what it says. -/
inductive Lexeme where
  | name (name : String)
  | sign (c : Char)
  | string (content : List Char)

/-- The characters that are lexemes of their own. -/
def signs : List Char := ['(', ')', '=', ',', '\x7b', '\x7d']

/-- A lexeme ahead, and the characters behind it. -/
inductive LexemeText : List Char → Lexeme → List Char → Prop
  | name {s rest : List Char} {name : String} (h : Name s name rest) :
      LexemeText s (.name name) rest
  | sign {c : Char} (hc : c ∈ signs) (rest : List Char) : LexemeText (c :: rest) (.sign c) rest
  | string {s content rest : List Char} (h : Quoted s content rest) :
      LexemeText ('"' :: s) (.string content) rest

theorem startsLexeme_of_mem_signs : ∀ c ∈ signs, startsLexeme c = true :=
  List.all_eq_true.mp rfl

theorem isNameStart_of_mem_signs : ∀ c ∈ signs, isNameStart c = false := by
  simp [signs, isNameStart]

/-- A lexeme starts with a character that ends blanks. -/
theorem exists_start_of_lexemeText {s rest : List Char} {l : Lexeme} (h : LexemeText s l rest) :
    ∃ c s', s = c :: s' ∧ startsLexeme c = true := by
  cases h with
  | name h =>
    obtain ⟨c, s', rfl, hc, -⟩ := name_iff.mp h
    exact ⟨c, s', rfl, startsLexeme_of_isNameStart hc⟩
  | sign hc => exact ⟨_, _, rfl, startsLexeme_of_mem_signs _ hc⟩
  | string => exact ⟨_, _, rfl, rfl⟩

/-- **There is one lexeme ahead at most.** -/
theorem lexemeText_unique {s rest rest' : List Char} {l l' : Lexeme} (h : LexemeText s l rest)
    (h' : LexemeText s l' rest') : l' = l ∧ rest' = rest := by
  cases h with
  | name h =>
    obtain ⟨c, s, rfl, hc, hrun⟩ := name_iff.mp h
    cases h' with
    | name h' =>
      obtain ⟨c', s', hs, -, hrun'⟩ := name_iff.mp h'
      obtain ⟨rfl, rfl⟩ := List.cons.inj hs
      obtain ⟨hname, rfl⟩ := Prod.mk.inj (hrun'.symm.trans hrun)
      exact ⟨congrArg Lexeme.name (Except.ok.inj hname), rfl⟩
    | sign hsign => exact absurd rfl (ne_of_isNameStart hc (isNameStart_of_mem_signs _ hsign))
    | string => exact absurd rfl (ne_of_isNameStart hc rfl)
  | sign hsign =>
    cases h' with
    | name h' =>
      obtain ⟨c', s', hs, hc', -⟩ := name_iff.mp h'
      obtain ⟨rfl, rfl⟩ := List.cons.inj hs
      exact absurd rfl (ne_of_isNameStart hc' (isNameStart_of_mem_signs _ hsign))
    | sign => exact ⟨rfl, rfl⟩
    | string => exact absurd hsign (by decide)
  | string h =>
    cases h' with
    | name h' =>
      obtain ⟨c', s', hs, hc', -⟩ := name_iff.mp h'
      obtain ⟨rfl, rfl⟩ := List.cons.inj hs
      exact absurd rfl (ne_of_isNameStart hc' rfl)
    | sign hsign => exact absurd hsign (by decide)
    | string h' =>
      have heq := (quoted_iff.mp h').symm.trans (quoted_iff.mp h)
      obtain ⟨rfl, rfl⟩ := Prod.mk.inj (Option.some.inj heq)
      exact ⟨rfl, rfl⟩

/-! ## 2. Lexemes in a row -/

/-- Lexemes in a row, with blanks around them, and the characters behind. -/
inductive Lexed : List Char → List Lexeme → List Char → Prop
  | done {s rest : List Char} (h : Blanks s rest) : Lexed s [] rest
  | lexeme {s s₁ s₂ rest : List Char} {l : Lexeme} {ls : List Lexeme} (hblanks : Blanks s s₁)
      (hl : LexemeText s₁ l s₂) (hls : Lexed s₂ ls rest) : Lexed s (l :: ls) rest

theorem Lexed.of_blanks {s s₁ rest : List Char} {ls : List Lexeme} (hblanks : Blanks s s₁)
    (h : Lexed s₁ ls rest) : Lexed s ls rest := by
  cases h with
  | done h => exact .done (hblanks.trans h)
  | lexeme h hl hls => exact .lexeme (hblanks.trans h) hl hls

theorem Lexed.append {s s₁ rest : List Char} {ls more : List Lexeme} (h : Lexed s ls s₁)
    (hmore : Lexed s₁ more rest) : Lexed s (ls ++ more) rest := by
  induction h with
  | done h => exact hmore.of_blanks h
  | lexeme hblanks hl _ ih => exact .lexeme hblanks hl (ih hmore)

/-- Before a lexeme, blanks end in one place only. -/
theorem eq_of_blanks_of_lexemeText {s s₁ s₂ rest rest₂ : List Char} {l l₂ : Lexeme}
    (h₁ : Blanks s s₁) (hl : LexemeText s₁ l rest) (h₂ : Blanks s s₂)
    (hl₂ : LexemeText s₂ l₂ rest₂) : s₂ = s₁ := by
  obtain ⟨c, s₁, rfl, hc⟩ := exists_start_of_lexemeText hl
  obtain ⟨c₂, s₂, rfl, hc₂⟩ := exists_start_of_lexemeText hl₂
  exact ((blanks_iff hc₂).mp h₂).symm.trans ((blanks_iff hc).mp h₁)

/-- No lexeme is ahead where nothing but blanks is. -/
theorem not_lexemeText_of_blanks_nil {s s₁ rest : List Char} {l : Lexeme} (hend : Blanks s [])
    (hblanks : Blanks s s₁) : ¬LexemeText s₁ l rest := by
  intro hl
  obtain ⟨c, s₁, rfl, hc⟩ := exists_start_of_lexemeText hl
  have heq := ((blanks_iff hc).mp hblanks).symm.trans (blanks_nil_iff.mp hend)
  cases heq

/-- Blanks at the front of a text that falls into lexemes can be left out. -/
theorem Lexed.behind_blanks {s s₁ : List Char} {ls : List Lexeme} (h : Lexed s ls [])
    (hblanks : Blanks s s₁) : Lexed s₁ ls [] := by
  have hskip := skipBlanks_of_blanks hblanks
  cases h with
  | done h => exact .done (blanks_nil_iff.mpr (hskip.symm.trans (blanks_nil_iff.mp h)))
  | lexeme h hl hls =>
    obtain ⟨c, s₂, rfl, hc⟩ := exists_start_of_lexemeText hl
    exact .lexeme ((blanks_iff hc).mpr (hskip.symm.trans ((blanks_iff hc).mp h))) hl hls

/-- **Lexemes can be taken from a text in one way only**: where some of them were taken, the others
    are still there. -/
theorem Lexed.exists_behind {s rest : List Char} {ls all : List Lexeme} (h : Lexed s ls rest)
    (hall : Lexed s all []) : ∃ more, all = ls ++ more ∧ Lexed rest more [] := by
  induction h generalizing all with
  | done h => exact ⟨all, rfl, hall.behind_blanks h⟩
  | lexeme hblanks hl _ ih =>
    cases hall with
    | done h => exact absurd hl (not_lexemeText_of_blanks_nil h hblanks)
    | lexeme hblanks' hl' hls' =>
      obtain rfl := eq_of_blanks_of_lexemeText hblanks hl hblanks' hl'
      obtain ⟨rfl, rfl⟩ := lexemeText_unique hl hl'
      obtain ⟨more, rfl, hmore⟩ := ih hls'
      exact ⟨more, rfl, hmore⟩

section Ahead

variable {s rest : List Char} {ls : List Lexeme}

theorem lexed_name_iff {name : String} : Lexed s (.name name :: ls) rest ↔
    ∃ s₁ s₂, Blanks s s₁ ∧ Name s₁ name s₂ ∧ Lexed s₂ ls rest := by
  constructor
  · intro h
    cases h with
    | lexeme hblanks hl hls =>
      cases hl with
      | name hname => exact ⟨_, _, hblanks, hname, hls⟩
  · intro h
    obtain ⟨s₁, s₂, hblanks, hname, hls⟩ := h
    exact .lexeme hblanks (.name hname) hls

theorem lexed_sign_iff {c : Char} (hc : c ∈ signs) : Lexed s (.sign c :: ls) rest ↔
    ∃ s₁, Blanks s (c :: s₁) ∧ Lexed s₁ ls rest := by
  constructor
  · intro h
    cases h with
    | lexeme hblanks hl hls =>
      cases hl with
      | sign => exact ⟨_, hblanks, hls⟩
  · intro h
    obtain ⟨s₁, hblanks, hls⟩ := h
    exact .lexeme hblanks (.sign hc _) hls

theorem lexed_string_iff {content : List Char} : Lexed s (.string content :: ls) rest ↔
    ∃ s₁ s₂, Blanks s ('"' :: s₁) ∧ Quoted s₁ content s₂ ∧ Lexed s₂ ls rest := by
  constructor
  · intro h
    cases h with
    | lexeme hblanks hl hls =>
      cases hl with
      | string hcontent => exact ⟨_, _, hblanks, hcontent, hls⟩
  · intro h
    obtain ⟨s₁, s₂, hblanks, hcontent, hls⟩ := h
    exact .lexeme hblanks (.string hcontent) hls

end Ahead

/-! ## 3. Attributes -/

/-- The lexemes of one attribute. -/
def attributeLexemes (a : Attribute) : List Lexeme :=
  [.name a.name, .sign '=', .string a.value.toList]

/-- The lexemes behind the first attribute. -/
def moreAttributesLexemes (as : List Attribute) : List Lexeme :=
  as.flatMap (fun a => .sign ',' :: attributeLexemes a) ++ [.sign ')']

theorem moreAttributesLexemes_cons (a : Attribute) (as : List Attribute) :
    moreAttributesLexemes (a :: as) =
      .sign ',' :: (attributeLexemes a ++ moreAttributesLexemes as) := by
  simp [moreAttributesLexemes]

/-- The lexemes of an attribute list, which may be left out if it is empty. -/
inductive AttributesLexemes : List Attribute → List Lexeme → Prop
  | absent : AttributesLexemes [] []
  | empty : AttributesLexemes [] [.sign '(', .sign ')']
  | some (a : Attribute) (as : List Attribute) :
      AttributesLexemes (a :: as) (.sign '(' :: attributeLexemes a ++ moreAttributesLexemes as)

section Attributes

variable {s last : List Char} {ls : List Lexeme}

theorem attributeText_iff_lexed {a : Attribute} :
    (∃ s₁ rest, Blanks s s₁ ∧ AttributeText Name s₁ a rest ∧ Lexed rest ls last) ↔
      Lexed s (attributeLexemes a ++ ls) last := by
  show _ ↔ Lexed s (.name a.name :: .sign '=' :: .string a.value.toList :: ls) last
  rw [lexed_name_iff]
  constructor
  · intro h
    obtain ⟨s₁, rest, hblanks, ha, hls⟩ := h
    cases ha with
    | mk hname hequals hquote hvalue =>
      rw [String.toList_ofList]
      exact ⟨_, _, hblanks, hname, (lexed_sign_iff (by decide)).mpr
        ⟨_, hequals, lexed_string_iff.mpr ⟨_, _, hquote, hvalue, hls⟩⟩⟩
  · intro h
    obtain ⟨s₁, s₂, hblanks, hname, h⟩ := h
    obtain ⟨s₃, hequals, h⟩ := (lexed_sign_iff (by decide)).mp h
    obtain ⟨s₄, rest, hquote, hvalue, hls⟩ := lexed_string_iff.mp h
    have ha := AttributeText.mk hname hequals hquote hvalue
    rw [String.ofList_toList] at ha
    exact ⟨s₁, rest, hblanks, ha, hls⟩

theorem moreAttributesText_iff_lexed {as : List Attribute} :
    (∃ rest, MoreAttributesText Name s as rest ∧ Lexed rest ls last) ↔
      Lexed s (moreAttributesLexemes as ++ ls) last := by
  induction as generalizing s with
  | nil =>
    show _ ↔ Lexed s (.sign ')' :: ls) last
    rw [lexed_sign_iff (by decide)]
    constructor
    · intro h
      obtain ⟨rest, has, hls⟩ := h
      cases has with
      | close hclose => exact ⟨rest, hclose, hls⟩
    · intro h
      obtain ⟨rest, hclose, hls⟩ := h
      exact ⟨rest, .close hclose, hls⟩
  | cons a as ih =>
    rw [moreAttributesLexemes_cons, List.cons_append, List.append_assoc,
      lexed_sign_iff (by decide)]
    constructor
    · intro h
      obtain ⟨rest, has, hls⟩ := h
      cases has with
      | more hcomma hblanks ha has =>
        exact ⟨_, hcomma, attributeText_iff_lexed.mp ⟨_, _, hblanks, ha, ih.mp ⟨rest, has, hls⟩⟩⟩
    · intro h
      obtain ⟨s₁, hcomma, h⟩ := h
      obtain ⟨s₂, s₃, hblanks, ha, h⟩ := attributeText_iff_lexed.mpr h
      obtain ⟨rest, has, hls⟩ := ih.mpr h
      exact ⟨rest, .more hcomma hblanks ha has, hls⟩

theorem exists_lexemes_of_attributesText {rest : List Char} {as : List Attribute}
    (h : AttributesText Name s as rest) :
    ∃ attributes, AttributesLexemes as attributes ∧
      ∀ {ls last}, Lexed rest ls last → Lexed s (attributes ++ ls) last := by
  cases h with
  | absent => exact ⟨[], .absent, fun hls => hls⟩
  | empty hopen hclose =>
    refine ⟨_, .empty, fun hls => (lexed_sign_iff (by decide)).mpr ⟨_, hopen, ?_⟩⟩
    exact (lexed_sign_iff (by decide)).mpr ⟨_, hclose, hls⟩
  | some hopen hblanks ha has =>
    refine ⟨_, .some _ _, fun hls => ?_⟩
    have hrest := moreAttributesText_iff_lexed.mp ⟨_, has, hls⟩
    have hlist := attributeText_iff_lexed.mp ⟨_, _, hblanks, ha, hrest⟩
    rw [List.append_assoc, List.cons_append]
    exact (lexed_sign_iff (by decide)).mpr ⟨_, hopen, hlist⟩

theorem attributesText_of_lexed {as : List Attribute} {attributes : List Lexeme}
    (h : AttributesLexemes as attributes) (hls : Lexed s (attributes ++ ls) last) :
    ∃ rest, AttributesText Name s as rest ∧ Lexed rest ls last := by
  cases h with
  | absent => exact ⟨s, .absent s, hls⟩
  | empty =>
    obtain ⟨s₁, hopen, hls⟩ := (lexed_sign_iff (by decide)).mp hls
    obtain ⟨rest, hclose, hls⟩ := (lexed_sign_iff (by decide)).mp hls
    exact ⟨rest, .empty hopen hclose, hls⟩
  | some a as =>
    rw [List.append_assoc, List.cons_append] at hls
    obtain ⟨s₁, hopen, hls⟩ := (lexed_sign_iff (by decide)).mp hls
    obtain ⟨s₂, s₃, hblanks, ha, hls⟩ := attributeText_iff_lexed.mpr hls
    obtain ⟨rest, has, hls⟩ := moreAttributesText_iff_lexed.mpr hls
    exact ⟨rest, .some hopen hblanks ha has, hls⟩

end Attributes

/-! ## 4. Elements -/

mutual

/-- The lexemes of an element with at most so many levels of elements, itself included. -/
inductive ElementLexemes : Nat → List Token → List Lexeme → Prop
  | bare {levels : Nat} {as : List Attribute} {attributes : List Lexeme} (name : String)
      (hattributes : AttributesLexemes as attributes) :
      ElementLexemes (levels + 1) [.opening name as, .closing] (.name name :: attributes)
  | braced {levels : Nat} {as : List Attribute} {body : List Token}
      {attributes items : List Lexeme} (name : String)
      (hattributes : AttributesLexemes as attributes) (hbody : ItemsLexemes levels body items) :
      ElementLexemes (levels + 1) (.opening name as :: body ++ [.closing])
        (.name name :: (attributes ++ .sign '\x7b' :: items))

/-- The lexemes of a body, the closing brace included. -/
inductive ItemsLexemes : Nat → List Token → List Lexeme → Prop
  | close {levels : Nat} : ItemsLexemes levels [] [.sign '\x7d']
  | string {levels : Nat} {others : List Token} {items : List Lexeme} (content : List Char)
      (hothers : ItemsLexemes levels others items) :
      ItemsLexemes levels (.text (String.ofList content) :: others) (.string content :: items)
  | element {levels : Nat} {tokens others : List Token} {element items : List Lexeme}
      (helement : ElementLexemes levels tokens element)
      (hothers : ItemsLexemes levels others items) :
      ItemsLexemes levels (tokens ++ others) (element ++ items)

end

mutual

theorem exists_lexemes_of_elementText {levels : Nat} {s rest : List Char} {tokens : List Token}
    (h : ElementText Name levels s tokens rest) :
    ∃ element, ElementLexemes levels tokens element ∧
      ∀ {ls last}, Lexed rest ls last → Lexed s (element ++ ls) last := by
  match h with
  | .bare hname hattributes =>
    obtain ⟨attributes, hattributes, htext⟩ := exists_lexemes_of_attributesText hattributes
    exact ⟨_, .bare _ hattributes, fun hls => lexed_name_iff.mpr ⟨_, _, .none _, hname, htext hls⟩⟩
  | .braced hname hattributes hopen hbody =>
    obtain ⟨attributes, hattributes, htext⟩ := exists_lexemes_of_attributesText hattributes
    obtain ⟨items, hitems, hbody⟩ := exists_lexemes_of_itemsText hbody
    refine ⟨_, .braced _ hattributes hitems, fun hls => ?_⟩
    have hbraces := (lexed_sign_iff (by decide)).mpr ⟨_, hopen, hbody hls⟩
    rw [List.cons_append, List.append_assoc, List.cons_append]
    exact lexed_name_iff.mpr ⟨_, _, .none _, hname, htext hbraces⟩

theorem exists_lexemes_of_itemsText {levels : Nat} {s rest : List Char} {body : List Token}
    (h : ItemsText Name levels s body rest) :
    ∃ items, ItemsLexemes levels body items ∧
      ∀ {ls last}, Lexed rest ls last → Lexed s (items ++ ls) last := by
  match h with
  | .close hclose =>
    exact ⟨_, .close, fun hls => (lexed_sign_iff (by decide)).mpr ⟨_, hclose, hls⟩⟩
  | .string hquote hcontent hothers =>
    obtain ⟨items, hitems, hothers⟩ := exists_lexemes_of_itemsText hothers
    exact ⟨_, .string _ hitems, fun hls =>
      lexed_string_iff.mpr ⟨_, _, hquote, hcontent, hothers hls⟩⟩
  | .element hblanks helement hothers =>
    obtain ⟨element, helement, htext⟩ := exists_lexemes_of_elementText helement
    obtain ⟨items, hitems, hothers⟩ := exists_lexemes_of_itemsText hothers
    refine ⟨_, .element helement hitems, fun hls => ?_⟩
    rw [List.append_assoc]
    exact (htext (hothers hls)).of_blanks hblanks

end

mutual

theorem elementText_of_lexed {levels : Nat} {s last : List Char} {tokens : List Token}
    {element ls : List Lexeme} (h : ElementLexemes levels tokens element)
    (hls : Lexed s (element ++ ls) last) :
    ∃ s₁ rest, Blanks s s₁ ∧ ElementText Name levels s₁ tokens rest ∧ Lexed rest ls last := by
  match h with
  | .bare name hattributes =>
    obtain ⟨s₁, s₂, hblanks, hname, hls⟩ := lexed_name_iff.mp hls
    obtain ⟨rest, hattributes, hls⟩ := attributesText_of_lexed hattributes hls
    exact ⟨s₁, rest, hblanks, .bare hname hattributes, hls⟩
  | .braced name hattributes hbody =>
    rw [List.cons_append, List.append_assoc, List.cons_append] at hls
    obtain ⟨s₁, s₂, hblanks, hname, hls⟩ := lexed_name_iff.mp hls
    obtain ⟨s₃, hattributes, hls⟩ := attributesText_of_lexed hattributes hls
    obtain ⟨s₄, hopen, hls⟩ := (lexed_sign_iff (by decide)).mp hls
    obtain ⟨rest, hbody, hls⟩ := itemsText_of_lexed hbody hls
    exact ⟨s₁, rest, hblanks, .braced hname hattributes hopen hbody, hls⟩

theorem itemsText_of_lexed {levels : Nat} {s last : List Char} {body : List Token}
    {items ls : List Lexeme} (h : ItemsLexemes levels body items)
    (hls : Lexed s (items ++ ls) last) :
    ∃ rest, ItemsText Name levels s body rest ∧ Lexed rest ls last := by
  match h with
  | .close =>
    obtain ⟨rest, hclose, hls⟩ := (lexed_sign_iff (by decide)).mp hls
    exact ⟨rest, .close hclose, hls⟩
  | .string content hothers =>
    obtain ⟨s₁, s₂, hquote, hcontent, hls⟩ := lexed_string_iff.mp hls
    obtain ⟨rest, hothers, hls⟩ := itemsText_of_lexed hothers hls
    exact ⟨rest, .string hquote hcontent hothers, hls⟩
  | .element helement hothers =>
    rw [List.append_assoc] at hls
    obtain ⟨s₁, s₂, hblanks, helement, hls⟩ := elementText_of_lexed helement hls
    obtain ⟨rest, hothers, hls⟩ := itemsText_of_lexed hothers hls
    exact ⟨rest, .element hblanks helement hothers, hls⟩

end

/-- **A text is a document if it falls into the lexemes of one**, whatever the blanks between
    them. -/
theorem documentText_iff_lexemes {s : List Char} {tokens : List Token} :
    DocumentText Name s tokens ↔
      ∃ ls, Lexed s ls [] ∧ ElementLexemes maxNesting tokens ls := by
  constructor
  · intro h
    cases h with
    | mk hbefore helement hafter =>
      obtain ⟨ls, hls, htext⟩ := exists_lexemes_of_elementText helement
      have hlexed := htext (.done hafter)
      rw [List.append_nil] at hlexed
      exact ⟨ls, hlexed.of_blanks hbefore, hls⟩
  · intro h
    obtain ⟨ls, hlexed, hls⟩ := h
    rw [← List.append_nil ls] at hlexed
    obtain ⟨s₁, rest, hbefore, helement, hlast⟩ := elementText_of_lexed hls hlexed
    cases hlast with
    | done hafter => exact .mk hbefore helement hafter

end Verdict.Grammar
