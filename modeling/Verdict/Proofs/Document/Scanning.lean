import Verdict.Proofs.Document.Balance
import Verdict.Proofs.Document.Insertion

/-!
# Where one is in a document

The lexemes of a document, one by one, lead from place to place: among the items of a body, or
somewhere inside an attribute list. A text in which they lead nowhere is no document, whatever was
read of it so far.

* `Place`, `Step`: the places, and the lexemes that lead from one to the next;
* `Arrives`, `GoesOn`: from a place on, lexemes or a text go on as documents do, up to the end;
* `arrives_element`, `goesOn_of_documentText`: documents do;
* `isPlain`: the characters that are neither blanks nor the start of a comment, of a string or of an
  attribute list;
* **`GoesOn.behind_name`**: among items, a name of plain characters that is not one for the grammar
  leads at best to the end of a body;
* **`GoesOn.behind_attributeName`**: inside a list, it leads nowhere.
-/

namespace Verdict.Grammar

/-! ## 1. Places -/

/-- The places between the lexemes of a document, each in so many bodies. -/
inductive Place where
  /-- Outside of attribute lists. -/
  | items (bodies : Nat)
  /-- Behind the parenthesis that opens a list. -/
  | listStart (bodies : Nat)
  /-- Behind the name of an attribute. -/
  | name (bodies : Nat)
  /-- Behind the equals sign of an attribute. -/
  | equals (bodies : Nat)
  /-- Behind the value of an attribute. -/
  | value (bodies : Nat)
  /-- Behind a comma. -/
  | comma (bodies : Nat)

/-- The lexemes that lead from one place to the next. -/
inductive Step : Place → Lexeme → Place → Prop
  | tag (n : Nat) (name : String) : Step (.items n) (.name name) (.items n)
  | text (n : Nat) (content : List Char) : Step (.items n) (.string content) (.items n)
  | openBody (n : Nat) : Step (.items n) (.sign '\x7b') (.items (n + 1))
  | closeBody (n : Nat) : Step (.items (n + 1)) (.sign '\x7d') (.items n)
  | openList (n : Nat) : Step (.items n) (.sign '(') (.listStart n)
  | closeEmpty (n : Nat) : Step (.listStart n) (.sign ')') (.items n)
  | firstName (n : Nat) (name : String) : Step (.listStart n) (.name name) (.name n)
  | equals (n : Nat) : Step (.name n) (.sign '=') (.equals n)
  | value (n : Nat) (content : List Char) : Step (.equals n) (.string content) (.value n)
  | comma (n : Nat) : Step (.value n) (.sign ',') (.comma n)
  | nextName (n : Nat) (name : String) : Step (.comma n) (.name name) (.name n)
  | closeList (n : Nat) : Step (.value n) (.sign ')') (.items n)

/-- Lexemes that lead from a place to the end of a document. -/
inductive Arrives : Place → List Lexeme → Prop
  | done : Arrives (.items 0) []
  | step {q q' : Place} {l : Lexeme} {ls : List Lexeme} (hstep : Step q l q')
      (h : Arrives q' ls) : Arrives q (l :: ls)

/-- From a place on, the text goes on as documents do, up to its end. -/
def GoesOn (q : Place) (s : List Char) : Prop := ∃ ls, Lexed s ls [] ∧ Arrives q ls

namespace GoesOn

variable {q : Place} {s s₁ : List Char}

/-- Blanks lead nowhere. -/
theorem behind_blanks (hblanks : Blanks s s₁) (h : GoesOn q s) : GoesOn q s₁ := by
  obtain ⟨ls, hls, harrives⟩ := h
  exact ⟨ls, hls.behind_blanks hblanks, harrives⟩

/-- The lexeme ahead leads to a place from which the text goes on. -/
theorem behind_lexeme {l : Lexeme} (hl : LexemeText s l s₁) (h : GoesOn q s) :
    ∃ q', Step q l q' ∧ GoesOn q' s₁ := by
  obtain ⟨ls, hls, harrives⟩ := h
  have hsingle : Lexed s [l] s₁ := .lexeme (.none s) hl (.done (.none s₁))
  obtain ⟨more, rfl, hmore⟩ := hsingle.exists_behind hls
  cases harrives with
  | step hstep harrives => exact ⟨_, hstep, more, hmore, harrives⟩

/-- Where no blanks are, a lexeme is. -/
theorem exists_lexeme {c : Char} (hc : startsLexeme c = true) (h : GoesOn q (c :: s)) :
    ∃ l q' rest, LexemeText (c :: s) l rest ∧ Step q l q' ∧ GoesOn q' rest := by
  have hskip := skipBlanks_lexeme hc s
  obtain ⟨ls, hls, harrives⟩ := h
  cases hls with
  | done hend =>
    have hnil := hskip.symm.trans (blanks_nil_iff.mp hend)
    cases hnil
  | lexeme hblanks hl hls =>
    obtain ⟨d, s₁, rfl, hd⟩ := exists_start_of_lexemeText hl
    obtain ⟨rfl, rfl⟩ := List.cons.inj (hskip.symm.trans ((blanks_iff hd).mp hblanks))
    cases harrives with
    | step hstep harrives => exact ⟨_, _, _, hl, hstep, _, hls, harrives⟩

end GoesOn

/-! ## 2. Documents -/

section Documents

variable {n : Nat} {ls : List Lexeme}

/-- An attribute leads from where a name is due to behind its value. -/
theorem arrives_attribute {q : Place} {a : Attribute} (hq : Step q (.name a.name) (.name n))
    (h : Arrives (.value n) ls) : Arrives q (attributeLexemes a ++ ls) :=
  .step hq (.step (.equals n) (.step (.value n _) h))

theorem arrives_moreAttributes {as : List Attribute} (h : Arrives (.items n) ls) :
    Arrives (.value n) (moreAttributesLexemes as ++ ls) := by
  induction as with
  | nil => exact .step (.closeList n) h
  | cons a as ih =>
    rw [moreAttributesLexemes_cons, List.cons_append, List.append_assoc]
    exact .step (.comma n) (arrives_attribute (.nextName n _) ih)

theorem arrives_attributes {as : List Attribute} {attributes : List Lexeme}
    (hattributes : AttributesLexemes as attributes) (h : Arrives (.items n) ls) :
    Arrives (.items n) (attributes ++ ls) := by
  cases hattributes with
  | absent => exact h
  | empty => exact .step (.openList n) (.step (.closeEmpty n) h)
  | some a as =>
    rw [List.append_assoc, List.cons_append]
    exact .step (.openList n) (arrives_attribute (.firstName n _) (arrives_moreAttributes h))

mutual

/-- An element leads back to where it starts. -/
theorem arrives_element {levels n : Nat} {tokens : List Token} {element ls : List Lexeme}
    (helement : ElementLexemes levels tokens element) (h : Arrives (.items n) ls) :
    Arrives (.items n) (element ++ ls) := by
  match helement with
  | .bare name hattributes => exact .step (.tag n name) (arrives_attributes hattributes h)
  | .braced name hattributes hbody =>
    rw [List.cons_append, List.append_assoc, List.cons_append]
    have hbraces := Arrives.step (.openBody n) (arrives_items hbody h)
    exact .step (.tag n name) (arrives_attributes hattributes hbraces)

/-- The items of a body lead out of it. -/
theorem arrives_items {levels n : Nat} {body : List Token} {items ls : List Lexeme}
    (hitems : ItemsLexemes levels body items) (h : Arrives (.items n) ls) :
    Arrives (.items (n + 1)) (items ++ ls) := by
  match hitems with
  | .close => exact .step (.closeBody n) h
  | .string content hothers => exact .step (.text (n + 1) content) (arrives_items hothers h)
  | .element helement hothers =>
    rw [List.append_assoc]
    exact arrives_element helement (arrives_items hothers h)

end

/-- **A document goes on up to its end**, with as many bodies closed as opened. -/
theorem goesOn_of_documentText {s : List Char} {tokens : List Token}
    (h : DocumentText Name s tokens) : GoesOn (.items 0) s := by
  obtain ⟨ls, hls, helement⟩ := documentText_iff_lexemes.mp h
  have harrives := arrives_element helement .done
  rw [List.append_nil] at harrives
  exact ⟨ls, hls, harrives⟩

/-- At the end, every body is closed. -/
theorem eq_zero_of_goesOn_nil (h : GoesOn (.items n) []) : n = 0 := by
  obtain ⟨ls, hls, harrives⟩ := h
  cases harrives with
  | done => rfl
  | step =>
    cases hls with
    | lexeme hblanks hl => exact absurd hl (not_lexemeText_of_blanks_nil (.none []) hblanks)

end Documents

/-! ## 3. Names -/

/-- The characters that are neither blanks nor the start of a comment, of a string or of an
    attribute list. -/
def isPlain (c : Char) : Bool := startsLexeme c && c != '"' && c != '('

theorem startsLexeme_of_isPlain {c : Char} (h : isPlain c = true) : startsLexeme c = true := by
  simp only [isPlain, Bool.and_eq_true] at h
  exact h.1.1

theorem ne_of_isPlain {c d : Char} (hc : isPlain c = true) (hd : isPlain d = false) : c ≠ d := by
  intro h
  subst h
  rw [hc] at hd
  cases hd

section Names

variable {chars tail : List Char} {n : Nat}

/-- What a name leaves of the characters before the place where no name goes on. -/
theorem rest_of_name {c : Char} {rest : List Char} {name : String} (htail : ¬Continues tail)
    (h : Name (c :: chars ++ tail) name rest) :
    isNameStart c = true ∧ rest = chars.dropWhile isNamePart ++ tail := by
  obtain ⟨d, s, hs, hd, hrun⟩ := name_iff.mp h
  obtain ⟨rfl, rfl⟩ := List.cons.inj hs
  obtain ⟨-, rfl⟩ := run_nameRest_iff.mp hrun
  have hstop : tail.dropWhile isNamePart = tail := by
    cases tail with
    | nil => rfl
    | cons e tail =>
      have he : isNamePart e = false := not_continues_iff.mp htail e rfl
      rw [List.dropWhile_cons_of_neg (by simp [he])]
  refine ⟨hd, ?_⟩
  show (chars ++ tail).dropWhile isNamePart = _
  rw [List.dropWhile_append, hstop]
  split
  · rename_i hnil
    rw [List.isEmpty_iff.mp hnil, List.nil_append]
  · rfl

/-- Characters that a name leaves nothing of are one. -/
theorem isName_of_dropWhile {c : Char} (hc : isNameStart c = true)
    (h : chars.dropWhile isNamePart = []) : isName (String.ofList (c :: chars)) = true := by
  refine isName_iff.mpr ⟨c, chars, String.toList_ofList, hc, fun d hd => ?_⟩
  rw [← List.takeWhile_append_dropWhile (p := isNamePart) (l := chars), h, List.append_nil] at hd
  exact List.all_eq_true.mp List.all_takeWhile d hd

/-- What a name leaves is none. -/
theorem not_isName_dropWhile (chars : List Char) :
    ¬isName (String.ofList (chars.dropWhile isNamePart)) = true := by
  intro hname
  obtain ⟨c, part, hchars, hstart, -⟩ := isName_iff.mp hname
  rw [String.toList_ofList] at hchars
  have hhead := List.head?_dropWhile_not isNamePart chars
  rw [hchars] at hhead
  have hpart : isNamePart c = false := by simpa using hhead
  rw [isNamePart_of_isNameStart hstart] at hpart
  cases hpart

/-- **Among items, plain characters lead to items again**, in no more bodies if no brace opens one,
    and in fewer if they are neither nothing nor one name. The induction is on the number of
    characters: each lexeme takes some of them. -/
theorem GoesOn.behind_name (hplain : ∀ c ∈ chars, isPlain c = true) (htail : ¬Continues tail)
    (h : GoesOn (.items n) (chars ++ tail)) :
    ∃ m, GoesOn (.items m) tail ∧ ('\x7b' ∉ chars →
      m ≤ n ∧ (m = n → chars = [] ∨ isName (String.ofList chars) = true)) := by
  induction hk : chars.length using Nat.strongRecOn generalizing chars n with
  | _ k ih =>
    subst hk
    cases chars with
    | nil => exact ⟨n, h, fun _ => ⟨Nat.le_refl n, fun _ => .inl rfl⟩⟩
    | cons c chars =>
      obtain ⟨hc, hrest⟩ := List.forall_mem_cons.mp hplain
      obtain ⟨l, q, rest, hl, hstep, hgoes⟩ := h.exists_lexeme (startsLexeme_of_isPlain hc)
      cases hl with
      | name hname =>
        obtain ⟨hstart, rfl⟩ := rest_of_name htail hname
        cases hstep
        have hleft : chars.dropWhile isNamePart <:+ chars := List.dropWhile_suffix isNamePart
        obtain ⟨m, hm, hfewer⟩ := ih _ (Nat.lt_succ_of_le hleft.length_le)
          (fun d hd => hrest d (hleft.mem hd)) hgoes rfl
        refine ⟨m, hm, fun hbrace => ?_⟩
        obtain ⟨hle, hsame⟩ := hfewer fun hd => hbrace (List.mem_cons_of_mem c (hleft.mem hd))
        refine ⟨hle, fun heq => .inr (isName_of_dropWhile hstart ?_)⟩
        exact (hsame heq).resolve_right (not_isName_dropWhile chars)
      | sign hsign =>
        obtain ⟨m, hm, hfewer⟩ : ∃ m, GoesOn (.items m) tail ∧ ('\x7b' ∉ c :: chars → m < n) := by
          cases hstep with
          | openList => exact absurd rfl (ne_of_isPlain hc rfl)
          | openBody =>
            obtain ⟨m, hm, -⟩ := ih _ (Nat.lt_succ_self _) hrest hgoes rfl
            exact ⟨m, hm, fun hbrace => absurd List.mem_cons_self hbrace⟩
          | closeBody n =>
            obtain ⟨m, hm, hfewer⟩ := ih _ (Nat.lt_succ_self _) hrest hgoes rfl
            refine ⟨m, hm, fun hbrace => Nat.lt_succ_of_le (hfewer ?_).1⟩
            exact fun hd => hbrace (List.mem_cons_of_mem _ hd)
        refine ⟨m, hm, fun hbrace => ?_⟩
        have hlt := hfewer hbrace
        exact ⟨Nat.le_of_lt hlt, fun heq => absurd heq (Nat.ne_of_lt hlt)⟩
      | string => exact absurd rfl (ne_of_isPlain hc rfl)

/-- An equals sign stands behind the name of an attribute only. -/
theorem GoesOn.behind_equals {q : Place} (h : GoesOn q (' ' :: '=' :: tail)) :
    ∃ n, q = .name n ∧ GoesOn (.equals n) tail := by
  have h := h.behind_blanks (.space (by decide) (.none _))
  obtain ⟨q', hstep, hgoes⟩ := h.behind_lexeme (.sign (by decide) tail)
  cases hstep
  exact ⟨_, rfl, hgoes⟩

/-- Behind the name of an attribute, plain characters leave no place for an equals sign. -/
theorem GoesOn.nothing_before_equals (hplain : ∀ c ∈ chars, isPlain c = true)
    (h : GoesOn (.name n) (chars ++ ' ' :: '=' :: tail)) :
    chars = [] ∧ GoesOn (.equals n) tail := by
  cases chars with
  | nil =>
    obtain ⟨m, hm, hgoes⟩ := h.behind_equals
    cases hm
    exact ⟨rfl, hgoes⟩
  | cons c chars =>
    obtain ⟨hc, hrest⟩ := List.forall_mem_cons.mp hplain
    obtain ⟨l, q, rest, hl, hstep, hgoes⟩ := h.exists_lexeme (startsLexeme_of_isPlain hc)
    cases hstep
    cases hl
    -- Behind an equals sign of its own, the name would have to go on with a string.
    cases chars with
    | nil =>
      obtain ⟨m, hm, -⟩ := hgoes.behind_equals
      cases hm
    | cons d chars =>
      have hd := hrest d List.mem_cons_self
      obtain ⟨l, q, rest, hl, hstep, -⟩ := hgoes.exists_lexeme (startsLexeme_of_isPlain hd)
      cases hstep
      cases hl
      exact absurd rfl (ne_of_isPlain hd rfl)

/-- **Where the name of an attribute is due, plain characters before an equals sign are one name.**
    Any other lexemes lead to a place where no equals sign can stand. -/
theorem GoesOn.behind_attributeName {q : Place} (hq : q = .listStart n ∨ q = .comma n)
    (hplain : ∀ c ∈ chars, isPlain c = true) (h : GoesOn q (chars ++ ' ' :: '=' :: tail)) :
    isName (String.ofList chars) = true ∧ GoesOn (.equals n) tail := by
  have htail : ¬Continues (' ' :: '=' :: tail) :=
    not_continues_of_blanks rfl (.space (by decide) (.none _))
  cases chars with
  | nil =>
    obtain ⟨m, rfl, -⟩ := h.behind_equals
    rcases hq with hq | hq <;> cases hq
  | cons c chars =>
    obtain ⟨hc, hrest⟩ := List.forall_mem_cons.mp hplain
    obtain ⟨l, q', rest, hl, hstep, hgoes⟩ := h.exists_lexeme (startsLexeme_of_isPlain hc)
    cases hl with
    | name hname =>
      obtain ⟨hstart, rfl⟩ := rest_of_name htail hname
      have hbehind : q' = .name n := by rcases hq with rfl | rfl <;> cases hstep <;> rfl
      subst hbehind
      have hleft : chars.dropWhile isNamePart <:+ chars := List.dropWhile_suffix isNamePart
      obtain ⟨hdrop, hgoes⟩ := hgoes.nothing_before_equals fun d hd => hrest d (hleft.mem hd)
      exact ⟨isName_of_dropWhile hstart hdrop, hgoes⟩
    | sign =>
      -- The list is over, and what is behind it is among items.
      have hitems : q' = .items n := by rcases hq with rfl | rfl <;> cases hstep; rfl
      subst hitems
      obtain ⟨m, hm, -⟩ := GoesOn.behind_name hrest htail hgoes
      obtain ⟨k, hk, -⟩ := hm.behind_equals
      cases hk
    | string => exact absurd rfl (ne_of_isPlain hc rfl)

end Names

end Verdict.Grammar
