import Verdict.Proofs.Consumer
import Verdict.Proofs.Document.Derivation

/-!
# Reading the lexemes of the text format

* `blanks_skipBlanks`, `skipBlanks_of_blanks`: the characters that are skipped are blanks, and no
  choice of blanks leads to another lexeme (`blanks_iff`);
* `quoted_iff`, `name_iff`: strings and names are read as their rules say;
* `run_lexemeStart_iff`, …: the same for the phrases, whose failing runs play no part here.
-/

namespace Verdict.Grammar

open Consumer

/-! ## 1. Blanks -/

theorem isSpace_iff {c : Char} : isSpace c = true ↔ c ∈ [' ', '\t', '\n', '\x0c', '\r'] := by
  simp [isSpace, or_assoc]

theorem afterComment_content {content after : List Char}
    (hline : ∀ c ∈ content, c ≠ '\n' ∧ c ≠ '\r') (hend : LineEnd after) :
    afterComment (content ++ after) = some after := by
  induction content with
  | nil => cases hend <;> rfl
  | cons c content ih =>
    obtain ⟨hn, hr⟩ := hline c List.mem_cons_self
    rw [List.cons_append, afterComment.eq_5 _ _ hn (fun _ h _ => hr h) hr]
    exact ih fun d hd => hline d (List.mem_cons_of_mem _ hd)

theorem exists_content_of_afterComment {s after : List Char} (h : afterComment s = some after) :
    ∃ content, s = content ++ after ∧ (∀ c ∈ content, c ≠ '\n' ∧ c ≠ '\r') ∧ LineEnd after := by
  fun_induction afterComment s with
  | case1 =>
    obtain rfl := Option.some.inj h
    exact ⟨[], rfl, by simp, .endOfText⟩
  | case2 rest =>
    obtain rfl := Option.some.inj h
    exact ⟨[], rfl, by simp, .lineFeed rest⟩
  | case3 rest =>
    obtain rfl := Option.some.inj h
    exact ⟨[], rfl, by simp, .returnAndFeed rest⟩
  | case4 => simp at h
  | case5 c s hn _ hr ih =>
    obtain ⟨content, rfl, hline, hend⟩ := ih h
    refine ⟨c :: content, rfl, fun d hd => ?_, hend⟩
    rcases List.mem_cons.mp hd with rfl | hd
    · exact ⟨hn, hr⟩
    · exact hline d hd

theorem skipBlanks_nil : skipBlanks [] = [] := by
  rw [skipBlanks]

theorem skipBlanks_space {c : Char} (hc : isSpace c = true) (s : List Char) :
    skipBlanks (c :: s) = skipBlanks s := by
  rw [skipBlanks, if_pos hc]

theorem skipBlanks_comment {s after : List Char} (h : afterComment s = some after) :
    skipBlanks ('#' :: s) = skipBlanks after := by
  rw [skipBlanks, if_neg (by decide), if_pos rfl]
  split
  · rename_i after' h'
    rw [h] at h'
    rw [Option.some.inj h']
  · rename_i h'
    rw [h] at h'
    cases h'

/-- The characters that neither are whitespace nor start a comment. -/
def startsLexeme (c : Char) : Bool := !isSpace c && c != '#'

theorem skipBlanks_lexeme {c : Char} (hc : startsLexeme c = true) (s : List Char) :
    skipBlanks (c :: s) = c :: s := by
  simp only [startsLexeme, Bool.and_eq_true, Bool.not_eq_true', bne_iff_ne] at hc
  rw [skipBlanks, if_neg (by simp [hc.1]), if_neg hc.2]

theorem blanks_skipBlanks (s : List Char) : Blanks s (skipBlanks s) := by
  fun_induction skipBlanks s with
  | case1 => exact .none []
  | case2 c rest hc ih => exact .space (isSpace_iff.mp hc) ih
  | case3 rest after ended _ ih =>
    obtain ⟨content, rfl, hline, hend⟩ := exists_content_of_afterComment ended
    exact .comment hline hend ih
  | case4 => exact .none _
  | case5 => exact .none _

theorem skipBlanks_of_blanks {s rest : List Char} (h : Blanks s rest) :
    skipBlanks s = skipBlanks rest := by
  induction h with
  | none => rfl
  | space hc _ ih => rw [skipBlanks_space (isSpace_iff.mpr hc), ih]
  | comment hline hend _ ih =>
    rw [List.cons_append, skipBlanks_comment (afterComment_content hline hend), ih]

/-- **Blanks before a lexeme end in one place only.** -/
theorem blanks_iff {c : Char} (hc : startsLexeme c = true) {s rest : List Char} :
    Blanks s (c :: rest) ↔ skipBlanks s = c :: rest := by
  constructor
  · intro h
    rw [skipBlanks_of_blanks h, skipBlanks_lexeme hc]
  · intro h
    rw [← h]
    exact blanks_skipBlanks s

theorem blanks_nil_iff {s : List Char} : Blanks s [] ↔ skipBlanks s = [] := by
  constructor
  · intro h
    rw [skipBlanks_of_blanks h, skipBlanks_nil]
  · intro h
    rw [← h]
    exact blanks_skipBlanks s

/-! ## 2. Strings -/

theorem escapePair_unescape (c : Char) : EscapePair c (unescape c) := by
  unfold unescape
  split
  · exact .quote
  · exact .backslash
  · exact .lineFeed
  · exact .tab
  · rename_i h₁ h₂ h₃ h₄
    exact .other (by simpa using ⟨h₁, h₂, h₃, h₄⟩)

theorem unescape_of_escapePair {c : Char} {said : List Char} (h : EscapePair c said) :
    unescape c = said := by
  cases h with
  | quote => rfl
  | backslash => rfl
  | lineFeed => rfl
  | tab => rfl
  | other hc =>
    simp only [List.mem_cons, List.not_mem_nil, or_false, not_or] at hc
    exact unescape.eq_5 c hc.1 hc.2.1 hc.2.2.1 hc.2.2.2

theorem literalBody_of_quoted {s content rest : List Char} (h : Quoted s content rest) :
    literalBody s = some (content, rest) := by
  induction h with
  | close => rfl
  | char hquote hbackslash _ ih =>
    rw [literalBody.eq_5 _ _ hquote (fun h _ => hbackslash h) fun _ _ h => absurd h hbackslash, ih]
    rfl
  | pair hc _ ih =>
    rw [literalBody, ih, ← unescape_of_escapePair hc]
    rfl

theorem quoted_of_literalBody {s content rest : List Char}
    (h : literalBody s = some (content, rest)) : Quoted s content rest := by
  fun_induction literalBody s generalizing content with
  | case1 => simp at h
  | case2 r =>
    simp only [Option.some.injEq, Prod.mk.injEq] at h
    obtain ⟨rfl, rfl⟩ := h
    exact .close _
  | case3 => simp at h
  | case4 c s ih =>
    obtain ⟨⟨content', rest'⟩, hs, he⟩ := Option.map_eq_some_iff.1 h
    simp only [Prod.mk.injEq] at he
    obtain ⟨rfl, rfl⟩ := he
    exact .pair (escapePair_unescape c) (ih hs)
  | case5 c s hquote hlone hpair ih =>
    obtain ⟨⟨content', rest'⟩, hs, he⟩ := Option.map_eq_some_iff.1 h
    simp only [Prod.mk.injEq] at he
    obtain ⟨rfl, rfl⟩ := he
    refine .char hquote (fun hb => ?_) (ih hs)
    cases s with
    | nil => exact hlone hb rfl
    | cons d s => exact hpair d s hb rfl

/-- **Strings are read as their rules say.** -/
theorem quoted_iff {s content rest : List Char} :
    Quoted s content rest ↔ literalBody s = some (content, rest) :=
  ⟨literalBody_of_quoted, quoted_of_literalBody⟩

/-! ## 3. Names -/

theorem ne_of_isNameStart {c d : Char} (hc : isNameStart c = true) (hd : isNameStart d = false) :
    c ≠ d := by
  intro h
  subst h
  rw [hc] at hd
  cases hd

theorem startsLexeme_of_isNameStart {c : Char} (hc : isNameStart c = true) :
    startsLexeme c = true := by
  have hne : ∀ d, isNameStart d = false → c ≠ d := fun d hd => ne_of_isNameStart hc hd
  simp only [startsLexeme, isSpace, Bool.and_eq_true, Bool.not_eq_true', Bool.or_eq_false_iff,
    beq_eq_false_iff_ne, bne_iff_ne]
  exact ⟨⟨⟨⟨⟨hne _ rfl, hne _ rfl⟩, hne _ rfl⟩, hne _ rfl⟩, hne _ rfl⟩, hne _ rfl⟩

theorem run_nameRest_iff {c : Char} {s rest : List Char} {name : String} :
    (nameRest c).run s = (.ok name, rest) ↔
      name = String.ofList (c :: s.takeWhile isNamePart) ∧ rest = s.dropWhile isNamePart := by
  simp only [nameRest, Prod.mk.injEq, Except.ok.injEq]
  constructor <;> rintro ⟨rfl, rfl⟩ <;> exact ⟨rfl, rfl⟩

/-- **Names are read as their rule says.** -/
theorem name_iff {s rest : List Char} {name : String} :
    Name s name rest ↔
      ∃ c s', s = c :: s' ∧ isNameStart c = true ∧ (nameRest c).run s' = (.ok name, rest) := by
  constructor
  · intro h
    cases h with
    | @mk c part rest hc hpart hend =>
      refine ⟨c, part ++ rest, rfl, hc, run_nameRest_iff.mpr ?_⟩
      obtain ⟨htake, hdrop⟩ := takeWhile_dropWhile_of_refused hend
      rw [List.takeWhile_append_of_pos hpart, List.dropWhile_append_of_pos hpart, htake, hdrop,
        List.append_nil]
      exact ⟨rfl, rfl⟩
  · intro h'
    obtain ⟨c, s', rfl, hc, hrun⟩ := h'
    obtain ⟨rfl, rfl⟩ := run_nameRest_iff.mp hrun
    have hpart : ∀ d ∈ s'.takeWhile isNamePart, isNamePart d = true := fun d hd =>
      List.all_eq_true.mp List.all_takeWhile d hd
    have hend : ∀ d, (s'.dropWhile isNamePart).head? = some d → isNamePart d = false := by
      intro d hd
      have := List.head?_dropWhile_not isNamePart s'
      rw [hd] at this
      simpa using this
    have h := Name.mk hc hpart hend
    rwa [List.cons_append, List.takeWhile_append_dropWhile] at h

/-! ## 4. Phrases that read one lexeme -/

theorem run_lexemeStart_iff {due : Due} {s rest : List Char} {c : Char} :
    (lexemeStart due).run s = (.ok c, rest) ↔ skipBlanks s = c :: rest := by
  simp only [lexemeStart]
  split <;> rename_i hs <;> simp [hs]

theorem run_symbol (c : Char) (due : Due) (s : List Char) :
    (symbol c due).run (c :: s) = (.ok (), s) := by
  simp [symbol]

theorem run_symbol_iff {c : Char} {due : Due} {s rest : List Char} {u : Unit} :
    (symbol c due).run s = (.ok u, rest) ↔ s = c :: rest := by
  cases s with
  | nil => simp [symbol]
  | cons d s =>
    by_cases h : d = c
    · simp [symbol, h]
    · simp [symbol, h]

theorem run_blanks (s : List Char) : blanks.run s = (.ok (), skipBlanks s) := rfl

theorem run_blanks_iff {s rest : List Char} {u : Unit} :
    blanks.run s = (.ok u, rest) ↔ rest = skipBlanks s := by
  simp only [blanks, Prod.mk.injEq, true_and, eq_comm]

theorem run_literalRest_iff {due : Due} {s rest : List Char} {value : String} :
    (literalRest due).run s = (.ok value, rest) ↔
      ∃ content, Quoted s content rest ∧ value = String.ofList content := by
  simp only [literalRest, quoted_iff]
  constructor
  · intro h
    split at h
    · rename_i content rest' hs
      simp only [Prod.mk.injEq, Except.ok.injEq] at h
      obtain ⟨rfl, rfl⟩ := h
      exact ⟨content, hs, rfl⟩
    · simp at h
  · intro h
    obtain ⟨content, hs, rfl⟩ := h
    rw [hs]

theorem run_expectedAt_ne {α : Type} {c : Char} {due : Due} {s rest : List Char} {a : α} :
    (expectedAt c due : Phrase α).run s ≠ (.ok a, rest) := by
  simp [expectedAt]

end Verdict.Grammar
