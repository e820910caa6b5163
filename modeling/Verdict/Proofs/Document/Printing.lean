import Verdict.Document.Layout
import Verdict.Proofs.Document.Nesting
import Verdict.Proofs.Document.Parsing
import Verdict.Proofs.Sink

/-!
# A document that is laid out is read back

* `quoted_escape`, `attributesText_attributeList`: strings and attributes are laid out as the
  grammar writes them;
* `Layout.putAll?`: a layout after several tokens;
* `LaidOut`, `ElementLaidOut`: the tokens of a body, or of an element, are laid out as text that
  says these tokens;
* `elementLaidOut_of_balanced`, `laidOut_of_balanced`: so are all balanced tokens;
* **`layout_parse_roundTrip`**: laying out and parsing are inverse on the well-formed token lists,
  and on no others.

A layout decides late whether an element has a body: the brace is written with the first token of
the body. The lemmas therefore speak of the tokens of an element as a whole.
-/

namespace Verdict

open Grammar

/-! ## 1. Strings -/

theorem quoted_escapeChar {c : Char} {s content rest : List Char} (h : Quoted s content rest) :
    Quoted (escapeChar c ++ s) (c :: content) rest := by
  unfold escapeChar
  split
  · exact .pair .quote h
  · exact .pair .backslash h
  · exact .pair .lineFeed h
  · exact .pair .tab h
  · rename_i hquote hbackslash _ _
    exact .char hquote hbackslash h

/-- An escaped text, up to its closing quote, is the text. -/
theorem quoted_escape (content rest : List Char) :
    Quoted (content.flatMap escapeChar ++ '"' :: rest) content rest := by
  induction content with
  | nil => exact .close rest
  | cons c content ih =>
    rw [List.flatMap_cons, List.append_assoc]
    exact quoted_escapeChar ih

theorem toList_textLiteral (content : String) :
    (textLiteral content).toList = '"' :: content.toList.flatMap escapeChar ++ ['"'] := by
  rw [textLiteral, String.toList_ofList]

/-! ## 2. Attributes -/

/-- One attribute as it is laid out. -/
def attributeChars (a : Attribute) : List Char :=
  a.name.toList ++ ' ' :: '=' :: ' ' :: (textLiteral a.value).toList

theorem attributeText_attributeChars {a : Attribute} (h : isName a.name = true)
    (rest : List Char) : AttributeText Name (attributeChars a ++ rest) a rest := by
  have hname : Name (a.name.toList ++ ' ' :: '=' :: ' ' :: ((textLiteral a.value).toList ++ rest))
      a.name (' ' :: '=' :: ' ' :: ((textLiteral a.value).toList ++ rest)) :=
    name_of_isName h fun d hd => Option.some.inj hd ▸ rfl
  have hvalue := quoted_escape a.value.toList rest
  have hchars : attributeChars a ++ rest =
      a.name.toList ++ ' ' :: '=' :: ' ' :: ((textLiteral a.value).toList ++ rest) := by
    simp [attributeChars]
  have hliteral : (textLiteral a.value).toList ++ rest =
      '"' :: (a.value.toList.flatMap escapeChar ++ '"' :: rest) := by
    simp [toList_textLiteral]
  rw [hliteral] at hname hchars
  have h := AttributeText.mk hname (.space (by simp) (.none _)) (.space (by simp) (.none _)) hvalue
  rwa [String.ofList_toList, ← hchars] at h

theorem moreAttributesText_flatMap {as : List Attribute} (h : ∀ a ∈ as, isName a.name = true)
    (rest : List Char) :
    MoreAttributesText Name ((as.flatMap fun a => ',' :: ' ' :: attributeChars a) ++ ')' :: rest) as
      rest := by
  induction as with
  | nil => exact .close (.none _)
  | cons a as ih =>
    have ha := attributeText_attributeChars (h a List.mem_cons_self)
      ((as.flatMap fun a => ',' :: ' ' :: attributeChars a) ++ ')' :: rest)
    have has := ih fun b hb => h b (List.mem_cons_of_mem a hb)
    rw [List.flatMap_cons, List.append_assoc, List.cons_append, List.cons_append]
    exact .more (.none _) (.space (by simp) (.none _)) ha has

theorem toList_intercalate_attributes (a : Attribute) (as : List Attribute) :
    (String.intercalate ", " ((a :: as).map fun a => a.name ++ " = " ++ textLiteral a.value)).toList
      = attributeChars a ++ as.flatMap fun a => ',' :: ' ' :: attributeChars a := by
  induction as generalizing a with
  | nil => simp [attributeChars]
  | cons b as ih =>
    have ih := ih b
    rw [List.map_cons] at ih
    rw [List.map_cons, List.map_cons, String.intercalate_cons_cons, String.toList_append, ih]
    simp [attributeChars]

theorem toList_attributeList_append (a : Attribute) (as : List Attribute) (rest : List Char) :
    (Layout.attributeList (a :: as)).toList ++ rest =
      '(' :: (attributeChars a ++
        ((as.flatMap fun a => ',' :: ' ' :: attributeChars a) ++ ')' :: rest)) := by
  rw [Layout.attributeList, String.toList_append, String.toList_append,
    toList_intercalate_attributes]
  · simp
  · simp

/-- The attributes of an opening tag are laid out as the grammar writes them. -/
theorem attributesText_attributeList {as : List Attribute} (h : ∀ a ∈ as, isName a.name = true)
    (rest : List Char) :
    AttributesText Name ((Layout.attributeList as).toList ++ rest) as rest := by
  cases as with
  | nil => exact .absent rest
  | cons a as =>
    have ha := attributeText_attributeChars (h a List.mem_cons_self)
      ((as.flatMap fun a => ',' :: ' ' :: attributeChars a) ++ ')' :: rest)
    have has := moreAttributesText_flatMap (fun b hb => h b (List.mem_cons_of_mem a hb)) rest
    rw [toList_attributeList_append]
    exact .some (.none _) (.none _) ha has

/-- Behind the name of an element, its attributes begin with no character of a name. -/
theorem head?_attributeList {as : List Attribute} {rest : List Char}
    (hrest : ∀ d, rest.head? = some d → isNamePart d = false) :
    ∀ d, ((Layout.attributeList as).toList ++ rest).head? = some d → isNamePart d = false := by
  cases as with
  | nil => exact hrest
  | cons a as =>
    intro d hd
    simp only [Layout.attributeList, String.toList_append] at hd
    exact Option.some.inj hd ▸ rfl

/-! ## 3. Several tokens -/

namespace Layout

/-- The layout after several tokens; none if one of them has no place. -/
def putAll? (l : Layout) : List Token → Option Layout
  | [] => some l
  | token :: rest => (l.put? token).bind fun l => l.putAll? rest

theorem putAll?_append (l : Layout) (a b : List Token) :
    l.putAll? (a ++ b) = (l.putAll? a).bind fun l => l.putAll? b := by
  induction a generalizing l with
  | nil => rfl
  | cons token a ih =>
    rw [List.cons_append, putAll?, putAll?, Option.bind_assoc]
    congr 1
    funext l
    exact ih l

/-- The brace of a body is written before the first token that is no close. -/
theorem putAll?_beginBody (l : Layout) {token : Token} (h : token ≠ .closing)
    (rest : List Token) : l.putAll? (token :: rest) = l.beginBody.putAll? (token :: rest) := by
  have hput : l.put? token = l.beginBody.put? token := by
    obtain ⟨text, bodies⟩ := l
    cases token with
    | closing => exact absurd rfl h
    | opening name attributes => rcases bodies with _ | ⟨_ | _, outer⟩ <;> rfl
    | text content => rcases bodies with _ | ⟨_ | _, outer⟩ <;> rfl
  rw [putAll?, putAll?, hput]

theorem result_put {l l' : Layout} {token : Token} (h : l.put? token = some l') :
    (put token).result l = (.ok (), l') := by
  have hget : (get : Writing Layout DocumentError Layout).result l = (.ok l, l) := rfl
  unfold put
  rw [Writing.result_bind_of_ok hget, h]
  rfl

/-- The sink takes the tokens one by one. -/
theorem result_forM_put {l l' : Layout} {tokens : List Token} (h : l.putAll? tokens = some l') :
    (tokens.forM put).result l = (.ok (), l') := by
  induction tokens generalizing l with
  | nil =>
    obtain rfl := Option.some.inj h
    rfl
  | cons token rest ih =>
    obtain ⟨l₁, hput, hrest⟩ := Option.bind_eq_some_iff.mp h
    rw [Writing.result_forM_cons, Writing.result_bind_of_ok (result_put hput)]
    exact ih hrest

end Layout

/-! ## 4. Bodies and elements -/

/-- Inside a body, these tokens are laid out as text that says them, whatever the body goes on
    with. -/
def LaidOut (levels : Nat) (tokens : List Token) : Prop :=
  ∀ (text : String) (outer : List Bool), ∃ s : List Char,
    Layout.putAll? ⟨text, true :: outer⟩ tokens = some ⟨text ++ String.ofList s, true :: outer⟩ ∧
      ∀ {tail : List Char} {more : List Token} {rest : List Char},
        ItemsText Name levels tail more rest →
          ItemsText Name levels (s ++ tail) (tokens ++ more) rest

theorem blanks_lineFeed (rest : List Char) : Blanks ('\n' :: rest) rest :=
  .space (by simp) (.none rest)

theorem blanks_indentation (l : Layout) (rest : List Char) :
    Blanks (l.indentation.toList ++ rest) rest := by
  rw [Layout.indentation, String.toList_ofList]
  induction 4 * l.bodies.length with
  | zero => exact .none rest
  | succ n ih => exact .space (by simp) ih

/-- Where the layout stands, the tokens of an element are laid out as a line, or as several, that
    say them. -/
def ElementLaidOut (l : Layout) (levels : Nat) (tokens : List Token) : Prop :=
  ∃ s : List Char,
    l.putAll? tokens =
      some { l with text := l.text ++ l.indentation ++ String.ofList s ++ "\n" } ∧
    ∀ rest, ElementText Name levels (s ++ '\n' :: rest) tokens ('\n' :: rest)

/-- The opening tag of an element, where the brace of the body around it was written. -/
theorem Layout.put?_opening {l : Layout} (hl : l.beginBody = l) (name : String)
    (attributes : List Attribute) :
    l.put? (.opening name attributes) =
      some ⟨l.text ++ l.indentation ++ name ++ attributeList attributes, false :: l.bodies⟩ := by
  show some (Layout.mk (l.beginBody.text ++ l.beginBody.indentation ++ name ++
    attributeList attributes) (false :: l.beginBody.bodies)) = _
  rw [hl]

/-- An element without a body is laid out bare. -/
theorem elementLaidOut_bare {l : Layout} (hl : l.beginBody = l) (levels : Nat) {name : String}
    {attributes : List Attribute} (hname : isName name = true)
    (hattributes : ∀ a ∈ attributes, isName a.name = true) :
    ElementLaidOut l (levels + 1) [.opening name attributes, .closing] := by
  refine ⟨name.toList ++ (Layout.attributeList attributes).toList, ?_, fun rest => ?_⟩
  · rw [Layout.putAll?, Layout.put?_opening hl]
    show some (Layout.mk _ _) = some (Layout.mk _ _)
    congr 2
    simp [String.ofList_append, String.append_assoc]
  · have hend : ∀ d, ('\n' :: rest).head? = some d → isNamePart d = false :=
      fun d hd => Option.some.inj hd ▸ rfl
    rw [List.append_assoc]
    exact .bare (name_of_isName hname (head?_attributeList hend))
      (attributesText_attributeList hattributes _)

/-- An element with a body is laid out with its body in braces. -/
theorem elementLaidOut_braced {l : Layout} (hl : l.beginBody = l) {levels : Nat} {name : String}
    {attributes : List Attribute} {token : Token} {body : List Token} (hname : isName name = true)
    (hattributes : ∀ a ∈ attributes, isName a.name = true) (htoken : token ≠ .closing)
    (hbody : LaidOut levels (token :: body)) :
    ElementLaidOut l (levels + 1)
      (.opening name attributes :: (token :: body) ++ [.closing]) := by
  let tag : String := l.text ++ l.indentation ++ name ++ Layout.attributeList attributes
  obtain ⟨inner, hput, hmeans⟩ := hbody (tag ++ " \x7b\n") l.bodies
  refine ⟨name.toList ++ ((Layout.attributeList attributes).toList ++
    (' ' :: '\x7b' :: '\n' :: (inner ++ (l.indentation.toList ++ ['\x7d'])))), ?_, fun rest => ?_⟩
  · -- The first token of the body finds the element without its brace, and writes it.
    have hbrace : Layout.putAll? ⟨tag, false :: l.bodies⟩ (token :: body) =
        some ⟨tag ++ " \x7b\n" ++ String.ofList inner, true :: l.bodies⟩ := by
      rw [Layout.putAll?_beginBody _ htoken]
      exact hput
    rw [List.cons_append, Layout.putAll?, Layout.put?_opening hl, Option.bind_some,
      Layout.putAll?_append, hbrace]
    show some (Layout.mk _ _) = some (Layout.mk _ _)
    congr 2
    apply String.toList_inj.mp
    simp [tag, Layout.indentation]
  · have hend : ∀ rest d, (' ' :: rest).head? = some d → isNamePart d = false :=
      fun _ d hd => Option.some.inj hd ▸ rfl
    have hclose : ItemsText Name levels (l.indentation.toList ++ '\x7d' :: '\n' :: rest) []
        ('\n' :: rest) := .close (blanks_indentation l _)
    have hitems := itemsText_of_blanks (blanks_lineFeed _) (hmeans hclose)
    rw [List.append_nil] at hitems
    have helement := ElementText.braced (name_of_isName hname (head?_attributeList (hend _)))
      (attributesText_attributeList hattributes _) (.space (by simp) (.none _)) hitems
    simpa using helement

/-- The first token of a body is no close. -/
theorem ne_closing_of_balanced {levels : Nat} {token : Token} {rest : List Token}
    (h : Balanced levels (token :: rest)) : token ≠ .closing := by
  intro htoken
  subst htoken
  cases h

/-- **An element is laid out as text that says its tokens.** -/
theorem elementLaidOut_of_balanced {l : Layout} (hl : l.beginBody = l) {levels : Nat}
    {name : String} {attributes : List Attribute} {body : List Token}
    (hopening : (Token.opening name attributes).isNamed = true) (hbalanced : Balanced levels body)
    (hbody : LaidOut levels body) :
    ElementLaidOut l (levels + 1) (.opening name attributes :: body ++ [.closing]) := by
  obtain ⟨hname, hattributes⟩ := Bool.and_eq_true_iff.mp hopening
  have hattributes := List.all_eq_true.mp hattributes
  cases body with
  | nil => exact elementLaidOut_bare hl levels hname hattributes
  | cons token body =>
    exact elementLaidOut_braced hl hname hattributes (ne_closing_of_balanced hbalanced) hbody

theorem laidOut_nil (levels : Nat) : LaidOut levels [] :=
  fun text outer => ⟨[], by simp [Layout.putAll?], fun htail => htail⟩

theorem laidOut_text {levels : Nat} {tokens : List Token} (content : String)
    (h : LaidOut levels tokens) : LaidOut levels (.text content :: tokens) := by
  intro text outer
  let l : Layout := ⟨text, true :: outer⟩
  obtain ⟨s, hput, hmeans⟩ := h (text ++ l.indentation ++ textLiteral content ++ "\n") outer
  refine ⟨l.indentation.toList ++ ((textLiteral content).toList ++ '\n' :: s), ?_,
    fun {tail _ _} htail => ?_⟩
  · show Layout.putAll? ⟨text ++ l.indentation ++ textLiteral content ++ "\n", true :: outer⟩
      tokens = _
    rw [hput]
    congr 2
    apply String.toList_inj.mp
    simp
  · have hquoted := quoted_escape content.toList ('\n' :: (s ++ tail))
    have hitems := ItemsText.string (blanks_indentation l _) hquoted
      (itemsText_of_blanks (blanks_lineFeed _) (hmeans htail))
    rw [String.ofList_toList] at hitems
    simpa [toList_textLiteral] using hitems

theorem laidOut_element {levels : Nat} {name : String} {attributes : List Attribute}
    {body tokens : List Token} (hopening : (Token.opening name attributes).isNamed = true)
    (hbalanced : Balanced levels body) (hbody : LaidOut levels body)
    (h : LaidOut (levels + 1) tokens) :
    LaidOut (levels + 1) (.opening name attributes :: body ++ .closing :: tokens) := by
  intro text outer
  let l : Layout := ⟨text, true :: outer⟩
  have hl : l.beginBody = l := rfl
  obtain ⟨element, hputElement, hmeansElement⟩ :=
    elementLaidOut_of_balanced hl hopening hbalanced hbody
  obtain ⟨s, hput, hmeans⟩ := h (text ++ l.indentation ++ String.ofList element ++ "\n") outer
  have htokens : .opening name attributes :: body ++ .closing :: tokens =
      (.opening name attributes :: body ++ [.closing]) ++ tokens := by simp
  refine ⟨l.indentation.toList ++ (element ++ '\n' :: s), ?_, fun htail => ?_⟩
  · rw [htokens, Layout.putAll?_append, hputElement, Option.bind_some]
    show Layout.putAll? ⟨text ++ l.indentation ++ String.ofList element ++ "\n", true :: outer⟩
      tokens = _
    rw [hput]
    congr 2
    apply String.toList_inj.mp
    simp
  · have hitems := ItemsText.element (blanks_indentation l _) (hmeansElement (s ++ _))
      (itemsText_of_blanks (blanks_lineFeed _) (hmeans htail))
    simpa using hitems

/-- **A balanced body is laid out as text that says it.** -/
theorem laidOut_of_balanced {levels : Nat} {tokens : List Token} (h : Balanced levels tokens)
    (hnamed : ∀ token ∈ tokens, token.isNamed = true) : LaidOut levels tokens := by
  induction h with
  | nil => exact laidOut_nil _
  | text _ ih => exact laidOut_text _ (ih fun token ht => hnamed token (List.mem_cons_of_mem _ ht))
  | element hbody _ ihBody ih =>
    have hopening := hnamed _ List.mem_cons_self
    refine laidOut_element hopening hbody (ihBody fun token ht => ?_) (ih fun token ht => ?_)
    · exact hnamed token (by simp [ht])
    · exact hnamed token (by simp [ht])

/-! ## 5. Documents -/

/-- One element is laid out as a text of its own, which says it up to the line feed at its end. -/
theorem exists_ofTokens_of_isElement {levels : Nat} {tokens : List Token}
    (h : IsElement levels tokens) (hnamed : ∀ token ∈ tokens, token.isNamed = true) :
    ∃ s : List Char, Layout.ofTokens tokens = .ok (String.ofList s ++ "\n") ∧
      ∀ rest, ElementText Name levels (s ++ '\n' :: rest) tokens ('\n' :: rest) := by
  obtain ⟨hbody⟩ := h
  have hlaidOut := laidOut_of_balanced hbody fun token ht => hnamed token (by simp [ht])
  have hstart : ({} : Layout).beginBody = {} := rfl
  obtain ⟨s, hput, hmeans⟩ :=
    elementLaidOut_of_balanced hstart (hnamed _ List.mem_cons_self) hbody hlaidOut
  refine ⟨s, ?_, hmeans⟩
  unfold Layout.ofTokens
  rw [Layout.result_forM_put hput]
  have hempty : "" ++ Layout.indentation {} ++ String.ofList s = String.ofList s := by
    simp [Layout.indentation]
  show Except.ok ("" ++ Layout.indentation {} ++ String.ofList s ++ "\n") = _
  rw [hempty]

/-- A well-formed token list is laid out as a text document that says it. -/
theorem exists_documentText {tokens : List Token} (h : WellFormed tokens) :
    ∃ text, Layout.ofTokens tokens = .ok text ∧ DocumentText Name text.toList tokens := by
  obtain ⟨s, hlayout, hmeans⟩ := exists_ofTokens_of_isElement h.isElement h.isNamed
  refine ⟨String.ofList s ++ "\n", hlayout, ?_⟩
  rw [String.toList_append, String.toList_ofList]
  exact .mk (.none _) (hmeans []) (blanks_lineFeed [])

/-- **Laying out and parsing are inverse on the well-formed token lists, and parsing answers no
    others.** -/
theorem layout_parse_roundTrip :
    (∀ tokens, WellFormed tokens →
      ∃ text, Layout.ofTokens tokens = .ok text ∧ parse text = .ok tokens) ∧
    (∀ text tokens, parse text = .ok tokens → WellFormed tokens ∧
      ∃ printed, Layout.ofTokens tokens = .ok printed ∧ parse printed = .ok tokens) := by
  have hprint : ∀ tokens, WellFormed tokens →
      ∃ text, Layout.ofTokens tokens = .ok text ∧ parse text = .ok tokens := by
    intro tokens h
    obtain ⟨text, hlayout, hdocument⟩ := exists_documentText h
    exact ⟨text, hlayout, parse_eq_ok_iff.mpr hdocument⟩
  refine ⟨hprint, fun text tokens h => ?_⟩
  have hwell := wellFormed_of_documentText (parse_eq_ok_iff.mp h)
  exact ⟨hwell, hprint tokens hwell⟩

/-- Texts that touch, an attribute twice, and characters that need an escape. -/
theorem layout_parse_roundTrip_escapes :
    let tokens : List Token := [.opening "a" [⟨"k", "\"\\\n\t\r"⟩, ⟨"k", ""⟩], .text "x", .text "",
      .opening "b:c" [], .closing, .closing]
    WellFormed tokens ∧ ∃ text, Layout.ofTokens tokens = .ok text ∧ parse text = .ok tokens := by
  intro tokens
  have hwell : WellFormed tokens := by decide
  exact ⟨hwell, layout_parse_roundTrip.1 tokens hwell⟩

end Verdict
