import Verdict.Proofs.Document.Ambiguity
import Verdict.Proofs.Document.Balance
import Verdict.Proofs.Document.Lexing

/-!
# Blanks between the lexemes of a document

* `Gap`: characters that are blanks whatever follows them -- whitespace (`gap_spaces`) and whole
  comments (`gap_comment`);
* `AtLexeme`: the places directly before and directly behind a lexeme;
* `AtLexeme.exists_front`: the lexemes before such a place do not depend on what is behind it;
* `parse_gap`: a gap at such a place changes nothing;
* `parse_stray`: a `#` that starts no comment is an error there;
* **`parse_insertion`**: whitespace and comments can be inserted between lexemes, except for
  comments with a carriage return before their last character.
-/

namespace Verdict

namespace Grammar

/-! ## 1. Gaps -/

/-- Whitespace and comments that are over where they end, whatever follows. -/
def Gap (gap : List Char) : Prop := ∀ rest, Blanks (gap ++ rest) rest

theorem gap_spaces {spaces : List Char} (h : ∀ c ∈ spaces, isSpace c = true) : Gap spaces := by
  intro rest
  induction spaces with
  | nil => exact .none rest
  | cons c spaces ih =>
    have hc := isSpace_iff.mp (h c List.mem_cons_self)
    exact .space hc (ih fun d hd => h d (List.mem_cons_of_mem c hd))

/-- A comment with its line feed; a carriage return at its end belongs to the line end. -/
theorem gap_comment {content : List Char} (hfeed : '\n' ∉ content)
    (hreturn : '\r' ∉ content.dropLast) : Gap ('#' :: content ++ ['\n']) := by
  intro rest
  have hline : ∀ part : List Char, '\n' ∉ part → '\r' ∉ part → ∀ c ∈ part, c ≠ '\n' ∧ c ≠ '\r' :=
    fun part hn hr c hc => ⟨fun h => hn (h ▸ hc), fun h => hr (h ▸ hc)⟩
  rw [List.append_assoc]
  by_cases hr : '\r' ∈ content
  · have hne : content ≠ [] := List.ne_nil_of_mem hr
    have hsplit := List.dropLast_concat_getLast hne
    have hlast : content.getLast hne = '\r' := by
      rw [← hsplit, List.mem_append, List.mem_singleton] at hr
      exact (hr.resolve_left hreturn).symm
    have hfeed : '\n' ∉ content.dropLast := fun h => hfeed (List.dropLast_subset content h)
    have hafter : Blanks ('\r' :: '\n' :: rest) rest :=
      .space (by simp) (.space (by simp) (.none _))
    have hcomment := Blanks.comment (hline _ hfeed hreturn) (.returnAndFeed rest) hafter
    rw [hlast] at hsplit
    rw [← hsplit]
    simpa using hcomment
  · exact .comment (hline _ hfeed hr) (.lineFeed rest) (.space (by simp) (.none _))

/-- A carriage return before the last character of a line leaves it without an end. -/
theorem afterComment_return {content : List Char} (hfeed : '\n' ∉ content)
    (hreturn : '\r' ∈ content.dropLast) (rest : List Char) :
    afterComment (content ++ rest) = none := by
  induction content with
  | nil => cases hreturn
  | cons c content ih =>
    obtain ⟨hc, hrest⟩ := List.ne_and_not_mem_of_not_mem_cons hfeed
    cases content with
    | nil => cases hreturn
    | cons d content =>
      by_cases hr : c = '\r'
      · subst hr
        have hd : d ≠ '\n' := fun h => hrest (List.mem_cons.mpr (.inl h.symm))
        exact afterComment.eq_4 _ fun _ h => hd (List.cons.inj h).1
      · have hreturn : '\r' ∈ (d :: content).dropLast :=
          (List.mem_cons.mp hreturn).resolve_left fun h => hr h.symm
        rw [List.cons_append, afterComment.eq_5 _ _ (Ne.symm hc) (fun _ h _ => hr h) hr]
        exact ih hrest hreturn

theorem not_startsLexeme_of_lineEnd {c : Char} {rest : List Char} (h : LineEnd (c :: rest)) :
    startsLexeme c = false := by
  cases h <;> rfl

/-- The line end of a comment lies in the blanks before a lexeme. -/
theorem lineEnd_append {c : Char} (hc : startsLexeme c = true) {gap rest : List Char}
    (h : LineEnd (gap ++ c :: rest)) (other : List Char) : LineEnd (gap ++ other) := by
  cases gap with
  | nil => exact absurd hc (Bool.not_eq_true _ ▸ not_startsLexeme_of_lineEnd h)
  | cons d gap =>
    cases gap with
    | nil =>
      cases h with
      | lineFeed => exact .lineFeed _
      | returnAndFeed => cases hc
    | cons e gap =>
      cases h with
      | lineFeed => exact .lineFeed _
      | returnAndFeed => exact .returnAndFeed _

/-- **Blanks before a lexeme are a gap**: they do not end with a comment whose line goes on. -/
theorem exists_gap_of_blanks {c : Char} (hc : startsLexeme c = true) {s rest : List Char}
    (h : Blanks s (c :: rest)) : ∃ gap, s = gap ++ c :: rest ∧ Gap gap := by
  generalize hbehind : c :: rest = behind at h
  induction h with
  | none => exact ⟨[], rfl, fun other => .none other⟩
  | @space d _ _ hd _ ih =>
    obtain ⟨gap, rfl, hgap⟩ := ih hbehind
    exact ⟨d :: gap, rfl, fun other => .space hd (hgap other)⟩
  | @comment content _ _ hline hend _ ih =>
    obtain ⟨gap, rfl, hgap⟩ := ih hbehind
    subst hbehind
    refine ⟨'#' :: content ++ gap, by simp, fun other => ?_⟩
    rw [List.append_assoc]
    exact .comment hline (lineEnd_append hc hend other) (hgap other)

/-- No name goes on where a gap is. -/
theorem Gap.not_continues {gap : List Char} (h : Gap gap) (hne : gap ≠ []) (rest : List Char) :
    ¬Continues (gap ++ rest) := by
  intro hcontinues
  have heq := eq_of_blanks_of_continues (h rest) hcontinues
  exact hne (List.self_eq_append_left.mp heq)

/-! ## 2. What is before a lexeme -/

theorem continues_append {front tail rest : List Char} (h : Continues (front ++ tail))
    (htail : front = [] → Continues tail → Continues rest) : Continues (front ++ rest) := by
  cases front with
  | nil => exact htail rfl h
  | cons c front =>
    obtain ⟨d, behind, heq, hd⟩ := h
    obtain ⟨rfl, -⟩ := List.cons.inj heq
    exact ⟨_, _, rfl, hd⟩

/-- A string ends with its quote, whatever follows. -/
theorem Quoted.exists_text {s content rest : List Char} (h : Quoted s content rest) :
    ∃ body, s = body ++ rest ∧ ∀ tail, Quoted (body ++ tail) content tail := by
  induction h with
  | close => exact ⟨['"'], rfl, fun tail => .close tail⟩
  | @char c _ _ _ hquote hbackslash _ ih =>
    obtain ⟨body, rfl, hbody⟩ := ih
    exact ⟨c :: body, rfl, fun tail => .char hquote hbackslash (hbody tail)⟩
  | @pair c _ _ _ _ hc _ ih =>
    obtain ⟨body, rfl, hbody⟩ := ih
    exact ⟨'\\' :: c :: body, rfl, fun tail => .pair hc (hbody tail)⟩

/-- A lexeme stays the same with other characters behind it, as long as no name goes on in them that
    did not before. -/
theorem LexemeText.exists_text {s rest : List Char} {l : Lexeme} (h : LexemeText s l rest) :
    ∃ text, text ≠ [] ∧ s = text ++ rest ∧
      ∀ tail, (Continues tail → Continues rest) → LexemeText (text ++ tail) l tail := by
  cases h with
  | name hname =>
    cases hname with
    | @mk c part _ hc hpart hend =>
      refine ⟨c :: part, List.cons_ne_nil c part, rfl, fun tail htail => ?_⟩
      have hstop : ¬Continues tail := fun hcontinues =>
        not_continues_iff.mpr hend (htail hcontinues)
      exact .name (name_of_ident (.mk hc hpart) hstop)
  | @sign c hc => exact ⟨[c], List.cons_ne_nil c [], rfl, fun tail _ => .sign hc tail⟩
  | @string s content _ h =>
    obtain ⟨body, rfl, hbody⟩ := h.exists_text
    exact ⟨'"' :: body, List.cons_ne_nil _ _, rfl, fun tail _ => .string (hbody tail)⟩

/-- **Lexemes stay the same with other characters behind the blanks that follow them.** -/
theorem Lexed.exists_front {s rest rest' : List Char} {ls : List Lexeme} {l : Lexeme}
    (h : Lexed s ls rest) (hl : LexemeText rest l rest') :
    ∃ front, s = front ++ rest ∧
      ∀ tail, (Continues tail → Continues rest) → Lexed (front ++ tail) ls tail := by
  induction h with
  | done hblanks =>
    obtain ⟨c, s', rfl, hc⟩ := exists_start_of_lexemeText hl
    obtain ⟨gap, rfl, hgap⟩ := exists_gap_of_blanks hc hblanks
    exact ⟨gap, rfl, fun tail _ => .done (hgap tail)⟩
  | lexeme hblanks hfirst _ ih =>
    obtain ⟨front, rfl, hfront⟩ := ih hl
    obtain ⟨c, s', rfl, hc⟩ := exists_start_of_lexemeText hfirst
    obtain ⟨gap, rfl, hgap⟩ := exists_gap_of_blanks hc hblanks
    obtain ⟨text, -, htext, hfirst⟩ := hfirst.exists_text
    refine ⟨gap ++ (text ++ front), by rw [htext]; simp, fun tail htail => ?_⟩
    rw [List.append_assoc, List.append_assoc]
    exact .lexeme (hgap _)
      (hfirst _ fun hcontinues => continues_append hcontinues fun _ => htail) (hfront tail htail)

/-! ## 3. Places -/

/-- The places directly before a lexeme, and directly behind one: `front` is before the place, and
    `back` is behind it. -/
inductive AtLexeme (front back : List Char) : Prop
  | before {ls : List Lexeme} {l : Lexeme} {rest : List Char} (hls : Lexed (front ++ back) ls back)
      (hl : LexemeText back l rest) : AtLexeme front back
  | behind {ls : List Lexeme} {l : Lexeme} {s : List Char} (hls : Lexed (front ++ back) ls s)
      (hl : LexemeText s l back) : AtLexeme front back

/-- **The lexemes before such a place are the same whatever is behind it**, unless a name goes
    on. -/
theorem AtLexeme.exists_front {front back : List Char} (h : AtLexeme front back) :
    ∃ ls, Lexed (front ++ back) ls back ∧
      ∀ tail, ¬Continues tail → Lexed (front ++ tail) ls tail := by
  cases h with
  | @before ls l rest hls hl =>
    obtain ⟨front', heq, hfront⟩ := hls.exists_front hl
    obtain rfl := List.append_cancel_right heq
    exact ⟨ls, hls, fun tail htail => hfront tail fun hcontinues => absurd hcontinues htail⟩
  | @behind ls l s hls hl =>
    obtain ⟨front', heq, hfront⟩ := hls.exists_front hl
    obtain ⟨text, hne, rfl, htext⟩ := hl.exists_text
    rw [← List.append_assoc] at heq
    obtain rfl := List.append_cancel_right heq
    have hsingle : ∀ {s rest}, LexemeText s l rest → Lexed s [l] rest :=
      fun hl => .lexeme (.none _) hl (.done (.none _))
    refine ⟨ls ++ [l], hls.append (hsingle hl), fun tail htail => ?_⟩
    have hlast := htext tail fun hcontinues => absurd hcontinues htail
    have hbefore := hfront (text ++ tail) fun hcontinues =>
      continues_append hcontinues fun hnil => absurd hnil hne
    rw [List.append_assoc]
    exact hbefore.append (hsingle hlast)

/-- A `#` that starts no comment is where neither blanks nor a lexeme are. -/
theorem not_lexed_of_stray {s : List Char} {ls : List Lexeme} (h : afterComment s = none) :
    ¬Lexed ('#' :: s) ls [] := by
  intro hls
  have hskip : skipBlanks ('#' :: s) = '#' :: s := by
    rw [skipBlanks, if_neg (by decide), if_pos rfl]
    split <;> simp_all
  cases hls with
  | done hblanks =>
    have hnil := hskip.symm.trans (blanks_nil_iff.mp hblanks)
    cases hnil
  | lexeme hblanks hl =>
    obtain ⟨c, s', rfl, hc⟩ := exists_start_of_lexemeText hl
    have hstart := hskip.symm.trans ((blanks_iff hc).mp hblanks)
    obtain ⟨rfl, -⟩ := List.cons.inj hstart
    cases hc

end Grammar

/-! ## 4. Insertions -/

open Grammar

section Insertion

variable {front back : List Char} {tokens : List Token}

/-- **A gap before or behind a lexeme changes nothing.** -/
theorem parse_gap (h : parse (String.ofList (front ++ back)) = .ok tokens)
    (hat : AtLexeme front back) {gap : List Char} (hgap : Gap gap) :
    parse (String.ofList (front ++ gap ++ back)) = .ok tokens := by
  by_cases hne : gap = []
  · rwa [hne, List.append_nil]
  · rw [parse_eq_ok_iff, String.toList_ofList, documentText_iff_lexemes] at h ⊢
    obtain ⟨all, hall, htokens⟩ := h
    obtain ⟨ls, hls, hfront⟩ := hat.exists_front
    obtain ⟨more, rfl, hmore⟩ := hls.exists_behind hall
    have hbefore := hfront (gap ++ back) (hgap.not_continues hne back)
    have hbehind := hmore.of_blanks (hgap back)
    rw [List.append_assoc]
    exact ⟨ls ++ more, hbefore.append hbehind, htokens⟩

/-- **A `#` before or behind a lexeme that starts no comment is a syntax error.** -/
theorem parse_stray (hat : AtLexeme front back) {s : List Char} (h : afterComment s = none) :
    ∃ detail, parse (String.ofList (front ++ '#' :: s)) = .error (.malformed detail) := by
  cases hparse : parse (String.ofList (front ++ '#' :: s)) with
  | error e =>
    obtain ⟨detail, rfl⟩ := exists_malformed_of_parse_error hparse
    exact ⟨detail, rfl⟩
  | ok tokens =>
    rw [parse_eq_ok_iff, String.toList_ofList, documentText_iff_lexemes] at hparse
    obtain ⟨all, hall, -⟩ := hparse
    obtain ⟨ls, -, hfront⟩ := hat.exists_front
    have hstop : ¬Continues ('#' :: s) := not_continues_of_blanks rfl (.none _)
    obtain ⟨more, -, hmore⟩ := (hfront _ hstop).exists_behind hall
    exact absurd hmore (not_lexed_of_stray h)

/-- **Whitespace and comments between lexemes are insignificant**, comments with a carriage return
    before their last character apart: these are syntax errors. -/
theorem parse_insertion (h : parse (String.ofList (front ++ back)) = .ok tokens)
    (hat : AtLexeme front back) :
    (∀ spaces, (∀ c ∈ spaces, isSpace c = true) →
      parse (String.ofList (front ++ spaces ++ back)) = .ok tokens) ∧
    ∀ content, '\n' ∉ content →
      let inserted := parse (String.ofList (front ++ ('#' :: content ++ ['\n']) ++ back))
      ('\r' ∉ content.dropLast → inserted = .ok tokens) ∧
        ('\r' ∈ content.dropLast → ∃ detail, inserted = .error (.malformed detail)) := by
  refine ⟨fun spaces hspaces => parse_gap h hat (gap_spaces hspaces), fun content hfeed => ?_⟩
  intro inserted
  refine ⟨fun hreturn => parse_gap h hat (gap_comment hfeed hreturn), fun hreturn => ?_⟩
  have hstray := parse_stray hat (afterComment_return hfeed hreturn ('\n' :: back))
  have hchars : front ++ ('#' :: content ++ ['\n']) ++ back =
      front ++ '#' :: (content ++ '\n' :: back) := by simp
  rwa [← hchars] at hstray

end Insertion

/-- Before a body: whitespace, a comment with two characters at its line end, and a comment with a
    carriage return inside. -/
theorem parse_insertion_before_body :
    let front : List Char := ['a', ' ']
    let back : List Char := ['\x7b', '"', 'x', '"', '\x7d']
    let tokens : List Token := [.opening "a" [], .text "x", .closing]
    parse (String.ofList (front ++ back)) = .ok tokens ∧ AtLexeme front back ∧
      parse (String.ofList (front ++ ['\t', '\n'] ++ back)) = .ok tokens ∧
      parse (String.ofList (front ++ ['#', '"', '\r', '\n'] ++ back)) = .ok tokens ∧
      ∃ detail, parse (String.ofList (front ++ ['#', '\r', '"', '\n'] ++ back)) =
        .error (.malformed detail) := by
  intro front back tokens
  have hname : Name ("a".toList ++ ' ' :: back) "a" (' ' :: back) :=
    name_of_isName (by decide) fun d hd => Option.some.inj hd ▸ rfl
  have hbrace : Blanks (' ' :: back) back := .space (by decide) (.none _)
  have hparse : parse (String.ofList (front ++ back)) = .ok tokens := by
    rw [parse_eq_ok_iff, String.toList_ofList]
    have hx : Quoted ['x', '"', '\x7d'] ['x'] ['\x7d'] := .char (by decide) (by decide) (.close _)
    have hbody : ItemsText Name 255 ['"', 'x', '"', '\x7d'] [.text "x"] [] :=
      .string (.none _) hx (.close (.none _))
    exact .mk (.none _) (.braced hname (.absent _) hbrace hbody) (.none _)
  have hat : AtLexeme front back :=
    .before (.lexeme (.none _) (.name hname) (.done hbrace)) (.sign (by decide) _)
  obtain ⟨hspaces, hcomments⟩ := parse_insertion hparse hat
  exact ⟨hparse, hat, hspaces ['\t', '\n'] (List.all_eq_true.mp rfl),
    (hcomments ['"', '\r'] (by decide)).1 (by decide),
    (hcomments ['\r', '"'] (by decide)).2 (by decide)⟩

/-- A comment behind a document makes it none if a carriage return is inside. -/
theorem parse_comment_with_return :
    parse (String.ofList ['a']) = .ok [.opening "a" [], .closing] ∧ AtLexeme ['a'] [] ∧
      '\n' ∉ ['\r', 'b'] ∧
      ∀ tokens, parse (String.ofList (['a'] ++ ('#' :: ['\r', 'b'] ++ ['\n']) ++ [])) ≠
        .ok tokens := by
  have hname : Name ("a".toList ++ []) "a" [] := name_of_isName (by decide) fun d hd => nomatch hd
  have hat : AtLexeme ['a'] [] := .behind (.done (.none _)) (.name hname)
  refine ⟨?_, hat, by decide, fun tokens h => ?_⟩
  · rw [parse_eq_ok_iff, String.toList_ofList]
    exact .mk (.none _) (.bare hname (.absent _)) (.none _)
  · have hreturn : '\r' ∈ ['\r', 'b'].dropLast := by decide
    obtain ⟨detail, hdetail⟩ := parse_stray hat (afterComment_return (by decide) hreturn ['\n'])
    have herror := hdetail.symm.trans h
    cases herror

end Verdict
