import Mathlib.Control.Monad.Basic
import Verdict.Proofs.Document.Replay
import Verdict.Proofs.Document.Scanning

/-!
# Names that a layout does not check

A layout copies every name as it is. Where the grammar has no such name, the text may be no document
at all, or may be another one: `a ` is read as `a`, and `"x"` in a body as a text.

* `Token.isPlain`: the names that cannot be taken for anything else -- no blanks, no comment, no
  string, no attribute list; the name of an element is not empty and opens no body;
* `Layout.Writes`: the characters between two layouts, and what they say if they are a part of a
  document: the names are names, or too many bodies were closed;
* `Layout.exists_writes_put?`, `Layout.exists_writes_putAll?`: one token, and all of them;
* `isNamed_of_parse`: a layout of plain names that is read has no others than the grammar has;
* **`layout_parse_plain`**: so it is read as the tokens that were written, or not at all.
-/

namespace Verdict

open Grammar

/-- Tokens whose names are made of plain characters. The name of an element is not empty, and no
    brace in it opens a body. -/
def Token.isPlain : Token → Bool
  | .opening name attributes =>
    !name.toList.isEmpty && name.toList.all (fun c => Grammar.isPlain c && c != '\x7b') &&
      attributes.all fun a => a.name.toList.all Grammar.isPlain
  | .text _ => true
  | .closing => true

theorem Token.isPlain_opening_iff {name : String} {attributes : List Attribute} :
    (Token.opening name attributes).isPlain = true ↔
      name.toList ≠ [] ∧ (∀ c ∈ name.toList, Grammar.isPlain c = true) ∧ '\x7b' ∉ name.toList ∧
        ∀ a ∈ attributes, ∀ c ∈ a.name.toList, Grammar.isPlain c = true := by
  simp only [isPlain, Bool.and_eq_true, Bool.not_eq_true', List.isEmpty_eq_false_iff, ne_eq,
    List.all_eq_true, bne_iff_ne]
  constructor
  · intro h
    obtain ⟨⟨hne, hname⟩, hattributes⟩ := h
    exact ⟨hne, fun c hc => (hname c hc).1, fun hbrace => (hname _ hbrace).2 rfl, hattributes⟩
  · intro h
    obtain ⟨hne, hname, hbrace, hattributes⟩ := h
    exact ⟨⟨hne, fun c hc => ⟨hname c hc, fun heq => hbrace (heq ▸ hc)⟩⟩, hattributes⟩

/-! ## 1. Attributes -/

section Attributes

variable {n : Nat} {tail : List Char}

theorem lexemeText_textLiteral (content : String) (rest : List Char) :
    LexemeText ((textLiteral content).toList ++ rest) (.string content.toList) rest := by
  have h := LexemeText.string (quoted_escape content.toList rest)
  simpa [toList_textLiteral] using h

/-- An attribute that is read where one is due has a name. -/
theorem goesOn_behind_attribute {q : Place} {a : Attribute} (hq : q = .listStart n ∨ q = .comma n)
    (hplain : ∀ c ∈ a.name.toList, isPlain c = true) (h : GoesOn q (attributeChars a ++ tail)) :
    isName a.name = true ∧ GoesOn (.value n) tail := by
  rw [attributeChars, List.append_assoc] at h
  obtain ⟨hname, hgoes⟩ := h.behind_attributeName hq hplain
  have hgoes := hgoes.behind_blanks (.space (by decide) (.none _))
  obtain ⟨q', hstep, hgoes⟩ := hgoes.behind_lexeme (lexemeText_textLiteral a.value tail)
  cases hstep
  rw [String.ofList_toList] at hname
  exact ⟨hname, hgoes⟩

theorem goesOn_behind_moreAttributes {as : List Attribute}
    (hplain : ∀ a ∈ as, ∀ c ∈ a.name.toList, isPlain c = true)
    (h : GoesOn (.value n) ((as.flatMap fun a => ',' :: ' ' :: attributeChars a) ++ ')' :: tail)) :
    (∀ a ∈ as, isName a.name = true) ∧ GoesOn (.items n) tail := by
  induction as with
  | nil =>
    obtain ⟨q, hstep, hgoes⟩ := h.behind_lexeme (.sign (by decide) tail)
    cases hstep
    exact ⟨fun a ha => (nomatch ha), hgoes⟩
  | cons a as ih =>
    rw [List.flatMap_cons, List.append_assoc] at h
    obtain ⟨q, hstep, hgoes⟩ := h.behind_lexeme (.sign (by decide) _)
    cases hstep
    have hgoes := hgoes.behind_blanks (.space (by decide) (.none _))
    obtain ⟨hname, hgoes⟩ :=
      goesOn_behind_attribute (.inr rfl) (hplain a List.mem_cons_self) hgoes
    obtain ⟨hnames, hgoes⟩ := ih (fun b hb => hplain b (List.mem_cons_of_mem a hb)) hgoes
    exact ⟨List.forall_mem_cons.mpr ⟨hname, hnames⟩, hgoes⟩

/-- **Attributes that are read have names**, if their names are plain. -/
theorem goesOn_behind_attributeList {as : List Attribute}
    (hplain : ∀ a ∈ as, ∀ c ∈ a.name.toList, isPlain c = true)
    (h : GoesOn (.items n) ((Layout.attributeList as).toList ++ tail)) :
    (∀ a ∈ as, isName a.name = true) ∧ GoesOn (.items n) tail := by
  cases as with
  | nil => exact ⟨fun a ha => (nomatch ha), h⟩
  | cons a as =>
    rw [toList_attributeList_append] at h
    obtain ⟨q, hstep, hgoes⟩ := h.behind_lexeme (.sign (by decide) _)
    cases hstep
    obtain ⟨hname, hgoes⟩ :=
      goesOn_behind_attribute (.inl rfl) (hplain a List.mem_cons_self) hgoes
    obtain ⟨hnames, hgoes⟩ :=
      goesOn_behind_moreAttributes (fun b hb => hplain b (List.mem_cons_of_mem a hb)) hgoes
    exact ⟨List.forall_mem_cons.mpr ⟨hname, hnames⟩, hgoes⟩

end Attributes

/-! ## 2. Layouts -/

namespace Layout

/-- The number of bodies whose brace was written and is not closed. -/
def braces (l : Layout) : Nat := l.bodies.count true

/-- The innermost open element has no brace yet: behind its tag, its name must be over. -/
def StandsBare (l : Layout) : Prop := l.bodies.head? = some false

/-- The characters that are written between two layouts. As a part of a document, they close no
    fewer bodies than the layout does, and as many only if the names are names. -/
structure Writes (l l' : Layout) (tokens : List Token) (s : List Char) : Prop where
  text_eq : l'.text.toList = l.text.toList ++ s
  stops : ∀ rest, (l'.StandsBare → ¬Continues rest) → l.StandsBare → ¬Continues (s ++ rest)
  goesOn : ∀ rest n, (l'.StandsBare → ¬Continues rest) → (∀ token ∈ tokens, token.isPlain = true) →
    GoesOn (.items n) (s ++ rest) → ∃ m, GoesOn (.items m) rest ∧
      m + l.braces ≤ n + l'.braces ∧
        (m + l.braces = n + l'.braces → ∀ token ∈ tokens, token.isNamed = true)

theorem Writes.refl (l : Layout) : Writes l l [] [] where
  text_eq := (List.append_nil _).symm
  stops _ hrest := hrest
  goesOn _ n _ _ h := ⟨n, h, Nat.le_refl _, fun _ _ ht => nomatch ht⟩

theorem Writes.trans {l l₁ l₂ : Layout} {tokens more : List Token} {s t : List Char}
    (h : Writes l l₁ tokens s) (h' : Writes l₁ l₂ more t) :
    Writes l l₂ (tokens ++ more) (s ++ t) where
  text_eq := by rw [h'.text_eq, h.text_eq, List.append_assoc]
  stops rest hrest hl := by
    rw [List.append_assoc]
    exact h.stops (t ++ rest) (h'.stops rest hrest) hl
  goesOn rest n hrest hplain hgoes := by
    obtain ⟨htokens, hmore⟩ := List.forall_mem_append.mp hplain
    rw [List.append_assoc] at hgoes
    obtain ⟨m, hgoes, hle, hsame⟩ := h.goesOn (t ++ rest) n (h'.stops rest hrest) htokens hgoes
    obtain ⟨k, hgoes, hle', hsame'⟩ := h'.goesOn rest m hrest hmore hgoes
    refine ⟨k, hgoes, by omega, fun heq => ?_⟩
    exact List.forall_mem_append.mpr ⟨hsame (by omega), hsame' (by omega)⟩

/-- The brace of a body, if it is not there already. -/
theorem exists_writes_beginBody (l : Layout) : ∃ s, Writes l l.beginBody [] s := by
  obtain ⟨text, bodies⟩ := l
  rcases bodies with _ | ⟨_ | _, outer⟩
  · exact ⟨[], .refl _⟩
  · refine ⟨[' ', '\x7b', '\n'], ?_, fun rest _ _ => ?_, fun rest n _ _ h => ?_⟩
    · exact String.toList_append
    · exact not_continues_of_blanks rfl (.space (by decide) (.none ('\x7b' :: '\n' :: rest)))
    · have h := h.behind_blanks (.space (by decide) (.none ('\x7b' :: '\n' :: rest)))
      obtain ⟨q, hstep, h⟩ := h.behind_lexeme (.sign (by decide) _)
      cases hstep
      refine ⟨n + 1, h.behind_blanks (blanks_lineFeed rest), ?_, fun _ _ ht => nomatch ht⟩
      simp only [braces, beginBody, List.count_cons_self, List.count_cons_of_ne Bool.false_ne_true]
      omega
  · exact ⟨[], .refl _⟩

theorem not_standsBare_beginBody (l : Layout) : ¬l.beginBody.StandsBare := by
  obtain ⟨text, bodies⟩ := l
  rcases bodies with _ | ⟨_ | _, outer⟩ <;> exact fun h => nomatch h

/-- An opening tag, where the brace of the body around it was written. -/
theorem writes_opening {l : Layout} (hl : ¬l.StandsBare) (name : String)
    (attributes : List Attribute) :
    Writes l ⟨l.text ++ l.indentation ++ name ++ attributeList attributes, false :: l.bodies⟩
      [.opening name attributes]
      (l.indentation.toList ++ (name.toList ++ (attributeList attributes).toList)) where
  text_eq := by simp
  stops _ _ hbare := absurd hbare hl
  goesOn rest n hrest hplain h := by
    obtain ⟨hne, hname, hbrace, hattributes⟩ :=
      Token.isPlain_opening_iff.mp (hplain _ List.mem_cons_self)
    have hstop : ¬Continues rest := hrest rfl
    have htail : ¬Continues ((attributeList attributes).toList ++ rest) :=
      not_continues_iff.mpr (head?_attributeList (not_continues_iff.mp hstop))
    rw [List.append_assoc, List.append_assoc] at h
    have h := h.behind_blanks (blanks_indentation l _)
    obtain ⟨m, h, hfewer⟩ := h.behind_name hname htail
    obtain ⟨hle, hsame⟩ := hfewer hbrace
    obtain ⟨hnames, h⟩ := goesOn_behind_attributeList hattributes h
    refine ⟨m, h, Nat.add_le_add_right hle _, fun heq token htoken => ?_⟩
    have hname := (hsame (Nat.add_right_cancel heq)).resolve_left hne
    rw [String.ofList_toList] at hname
    rw [List.mem_singleton.mp htoken]
    exact Bool.and_eq_true_iff.mpr ⟨hname, List.all_eq_true.mpr hnames⟩

/-- A text, where the brace of the body around it was written. -/
theorem writes_text {l : Layout} (hl : ¬l.StandsBare) (content : String) :
    Writes l { l with text := l.text ++ l.indentation ++ textLiteral content ++ "\n" }
      [.text content] (l.indentation.toList ++ ((textLiteral content).toList ++ ['\n'])) where
  text_eq := by simp
  stops _ _ hbare := absurd hbare hl
  goesOn rest n _ _ h := by
    rw [List.append_assoc, List.append_assoc] at h
    have h := h.behind_blanks (blanks_indentation l _)
    obtain ⟨q, hstep, h⟩ := h.behind_lexeme (lexemeText_textLiteral content _)
    cases hstep
    refine ⟨n, h.behind_blanks (blanks_lineFeed rest), Nat.le_refl _, fun _ token htoken => ?_⟩
    rw [List.mem_singleton.mp htoken]
    rfl

/-- The end of an element without a body. -/
theorem writes_closing_bare (text : String) (outer : List Bool) :
    Writes ⟨text, false :: outer⟩ ⟨text ++ "\n", outer⟩ [.closing] ['\n'] where
  text_eq := String.toList_append
  stops rest _ _ := not_continues_of_blanks rfl (.none ('\n' :: rest))
  goesOn rest n _ _ h := by
    refine ⟨n, h.behind_blanks (blanks_lineFeed rest), ?_, fun _ token htoken => ?_⟩
    · simp [braces]
    · rw [List.mem_singleton.mp htoken]
      rfl

/-- The end of a body. -/
theorem writes_closing_body (text : String) (outer : List Bool) :
    Writes ⟨text, true :: outer⟩ ⟨text ++ indentation ⟨text, outer⟩ ++ "\x7d\n", outer⟩ [.closing]
      ((indentation ⟨text, outer⟩).toList ++ ['\x7d', '\n']) where
  text_eq := by simp
  stops _ _ hbare := nomatch hbare
  goesOn rest n _ _ h := by
    rw [List.append_assoc] at h
    have h := h.behind_blanks (blanks_indentation _ _)
    obtain ⟨q, hstep, h⟩ := h.behind_lexeme (.sign (by decide) _)
    cases hstep with
    | closeBody m =>
      refine ⟨m, h.behind_blanks (blanks_lineFeed rest), ?_, fun _ token htoken => ?_⟩
      · simp only [braces, List.count_cons_self]
        omega
      · rw [List.mem_singleton.mp htoken]
        rfl

/-- One token. -/
theorem exists_writes_put? {l l' : Layout} {token : Token} (h : l.put? token = some l') :
    ∃ s, Writes l l' [token] s := by
  obtain ⟨brace, hbrace⟩ := exists_writes_beginBody l
  have hl := not_standsBare_beginBody l
  cases token with
  | opening name attributes =>
    obtain rfl := Option.some.inj h
    exact ⟨_, hbrace.trans (writes_opening hl name attributes)⟩
  | text content =>
    rw [put?] at h
    split at h
    · cases h
    · obtain rfl := Option.some.inj h
      exact ⟨_, hbrace.trans (writes_text hl content)⟩
  | closing =>
    obtain ⟨text, bodies⟩ := l
    rcases bodies with _ | ⟨_ | _, outer⟩
    · cases h
    · obtain rfl := Option.some.inj h
      exact ⟨_, writes_closing_bare text outer⟩
    · obtain rfl := Option.some.inj h
      exact ⟨_, writes_closing_body text outer⟩

/-- Several tokens. -/
theorem exists_writes_putAll? {l l' : Layout} {tokens : List Token}
    (h : l.putAll? tokens = some l') : ∃ s, Writes l l' tokens s := by
  induction tokens generalizing l with
  | nil =>
    obtain rfl := Option.some.inj h
    exact ⟨[], .refl l⟩
  | cons token rest ih =>
    obtain ⟨l₁, hput, hrest⟩ := Option.bind_eq_some_iff.mp h
    obtain ⟨s, hfirst⟩ := exists_writes_put? hput
    obtain ⟨t, hmore⟩ := ih hrest
    exact ⟨s ++ t, hfirst.trans hmore⟩

end Layout

/-! ## 3. Documents -/

/-- **Plain names that are laid out and read are names**: a brace too many, which is all that they
    can hide, is missed at the end. -/
theorem isNamed_of_parse {tokens found : List Token} {text : String}
    (hput : Layout.putAll? {} tokens = some ⟨text, []⟩)
    (hplain : ∀ token ∈ tokens, token.isPlain = true) (h : parse text = .ok found) :
    ∀ token ∈ tokens, token.isNamed = true := by
  obtain ⟨s, hwrites⟩ := Layout.exists_writes_putAll? hput
  have hs : text.toList = s ++ [] := by
    rw [List.append_nil]
    exact hwrites.text_eq
  have hgoes := goesOn_of_documentText (parse_eq_ok_iff.mp h)
  rw [hs] at hgoes
  obtain ⟨m, hend, -, hsame⟩ := hwrites.goesOn [] 0 (fun hbare => nomatch hbare) hplain hgoes
  obtain rfl := eq_zero_of_goesOn_nil hend
  exact hsame rfl

/-- **An element with plain names is laid out, and what is written is not read as anything else**:
    it is read back if all its names are names, and no document otherwise. -/
theorem layout_parse_plain {tokens : List Token} (h : IsElement maxNesting tokens)
    (hplain : ∀ token ∈ tokens, token.isPlain = true) :
    ∃ text, Layout.ofTokens tokens = .ok text ∧
      (parse text = .ok tokens ↔ ∀ token ∈ tokens, token.isNamed = true) ∧
      (parse text = .ok tokens ∨ ∃ detail, parse text = .error (.malformed detail)) := by
  obtain ⟨text, hput, htext⟩ := Layout.exists_putAll?_of_isElement h
  have hread : (∀ token ∈ tokens, token.isNamed = true) → parse text = .ok tokens := by
    intro hnamed
    obtain ⟨text', htext', hdocument⟩ := exists_documentText ⟨h, hnamed⟩
    obtain rfl := Except.ok.inj (htext.symm.trans htext')
    exact parse_eq_ok_iff.mpr hdocument
  refine ⟨text, htext, ⟨isNamed_of_parse hput hplain, hread⟩, ?_⟩
  cases hparse : parse text with
  | ok found =>
    rw [hread (isNamed_of_parse hput hplain hparse)] at hparse
    exact .inl hparse.symm
  | error e =>
    obtain ⟨detail, rfl⟩ := exists_malformed_of_parse_error hparse
    exact .inr ⟨detail, rfl⟩

/-- Plain names that are none: no document is read. -/
theorem layout_parse_plain_no_names :
    let tokens : List Token := [.opening "a\x7d" [⟨"k=)\x7b", "v"⟩], .text "x", .closing]
    IsElement maxNesting tokens ∧ (∀ token ∈ tokens, token.isPlain = true) ∧
      ∃ text detail, Layout.ofTokens tokens = .ok text ∧
        parse text = .error (.malformed detail) := by
  intro tokens
  have helement : IsElement maxNesting tokens := by decide +kernel
  have hplain : ∀ token ∈ tokens, token.isPlain = true := by decide +kernel
  have hnamed : ¬∀ token ∈ tokens, token.isNamed = true := by decide +kernel
  obtain ⟨text, htext, hiff, hread | ⟨detail, herror⟩⟩ := layout_parse_plain helement hplain
  · exact absurd (hiff.mp hread) hnamed
  · exact ⟨helement, hplain, text, detail, htext, herror⟩

/-- One element is laid out as a text that is read as other tokens. -/
def Misread (tokens : List Token) (text : String) (found : List Token) : Prop :=
  IsElement maxNesting tokens ∧ Layout.ofTokens tokens = .ok text ∧ parse text = .ok found ∧
    found ≠ tokens

instance (tokens : List Token) (text : String) (found : List Token) :
    Decidable (Misread tokens text found) :=
  inferInstanceAs (Decidable (_ ∧ _))

/-- Every kind of character that is not plain, a brace in the name of an element, and an empty name
    of one can mislead the reader. -/
theorem layout_parse_misread :
    Misread [.opening "a " [], .closing] "a \n" [.opening "a" [], .closing] ∧
    Misread [.opening "a#" [], .closing] "a#\n" [.opening "a" [], .closing] ∧
    Misread [.opening "a()" [], .closing] "a()\n" [.opening "a" [], .closing] ∧
    Misread [.opening "a\x7b\x7d" [], .closing] "a\x7b\x7d\n" [.opening "a" [], .closing] ∧
    Misread [.opening "a" [], .opening "\"x\"" [], .closing, .closing]
      "a \x7b\n    \"x\"\n\x7d\n" [.opening "a" [], .text "x", .closing] ∧
    Misread [.opening "a" [], .opening "" [], .closing, .closing]
      "a \x7b\n    \n\x7d\n" [.opening "a" [], .closing] ∧
    Misread [.opening "a" [⟨"k ", "v"⟩], .closing]
      "a(k  = \"v\")\n" [.opening "a" [⟨"k", "v"⟩], .closing] ∧
    Misread [.opening "a" [⟨"k=\"v\",l", "w"⟩], .closing]
      "a(k=\"v\",l = \"w\")\n" [.opening "a" [⟨"k", "v"⟩, ⟨"l", "w"⟩], .closing] ∧
    Misread [.opening "a" [], .opening "b" [⟨")c(k", "v"⟩], .closing, .closing]
      "a \x7b\n    b()c(k = \"v\")\n\x7d\n"
      [.opening "a" [], .opening "b" [], .closing, .opening "c" [⟨"k", "v"⟩], .closing, .closing] ∧
    Misread [.opening "a" [], .opening "b" [⟨"#", "v"⟩], .closing, .opening ")" [], .closing,
        .closing]
      "a \x7b\n    b(# = \"v\")\n    )\n\x7d\n"
      [.opening "a" [], .opening "b" [], .closing, .closing] := by
  decide +kernel

end Verdict
