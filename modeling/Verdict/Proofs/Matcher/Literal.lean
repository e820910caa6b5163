import Mathlib.Data.List.Infix
import Verdict.Proofs.Matcher.Basic
import Verdict.Proofs.Regex.Literal
import Verdict.Proofs.Regex.Matching

/-!
# What the literal methods match

A pattern becomes the text of a regular expression. Here it is shown that this expression means what
the method says, for all methods but that of regular expressions.

* `IsPiece`, `mem_splitCommas`: the pieces of a text between its commas;
* `Glob`: the texts that a pattern with stars and question marks stands for;
* `MatchMethod.Denotes`: the texts that a pattern stands for by one of the literal methods;
* `MatchMethod.alternatives`, `branches_expression`: what the text of the expression is read as;
* `spans_alternatives`: that spans what the pattern stands for;
* **`MatchOptions.accepts_iff_denotes`**: literal options have a matcher, and it accepts the texts
  that the pattern stands for.
-/

namespace Verdict

open Pattern (Piece ReadAs Branches literal)

/-! ## 1. Pieces between commas -/

/-- The part is one of several texts without commas that make up `s` with commas between them. -/
def IsPiece (part s : List Char) : Prop :=
  ∃ pieces : List (List Char),
    List.intercalate [','] pieces = s ∧ (∀ piece ∈ pieces, ',' ∉ piece) ∧ part ∈ pieces

namespace MatchMethod

theorem splitCommas_ne_nil (s : List Char) : splitCommas s ≠ [] := by
  cases s with
  | nil => exact List.cons_ne_nil _ _
  | cons c rest =>
    rw [splitCommas]
    split
    · exact List.cons_ne_nil _ _
    · split <;> exact List.cons_ne_nil _ _

theorem splitCommas_cons {c : Char} (hc : c ≠ ',') {s part : List Char} {parts : List (List Char)}
    (h : splitCommas s = part :: parts) : splitCommas (c :: s) = (c :: part) :: parts := by
  rw [splitCommas, if_neg hc, h]

theorem intercalate_splitCommas (s : List Char) : List.intercalate [','] (splitCommas s) = s := by
  induction s with
  | nil => rfl
  | cons c rest ih =>
    obtain ⟨part, parts, hparts⟩ := List.exists_cons_of_ne_nil (splitCommas_ne_nil rest)
    rw [hparts] at ih
    by_cases hc : c = ','
    · rw [splitCommas, if_pos hc, hparts, List.intercalate_cons_cons, ih, hc]
      rfl
    · rw [splitCommas_cons hc hparts]
      cases parts with
      | nil => simpa using ih
      | cons next others =>
        rw [List.intercalate_cons_cons] at ih ⊢
        exact congrArg (c :: ·) ih

theorem not_mem_of_mem_splitCommas {s part : List Char} (h : part ∈ splitCommas s) :
    ',' ∉ part := by
  induction s generalizing part with
  | nil =>
    rw [List.mem_singleton.mp h]
    exact List.not_mem_nil
  | cons c rest ih =>
    obtain ⟨first, others, hparts⟩ := List.exists_cons_of_ne_nil (splitCommas_ne_nil rest)
    by_cases hc : c = ','
    · rw [splitCommas, if_pos hc] at h
      rcases List.mem_cons.mp h with rfl | hpart
      · exact List.not_mem_nil
      · exact ih hpart
    · rw [splitCommas_cons hc hparts] at h
      rcases List.mem_cons.mp h with rfl | hpart
      · have hfirst : ',' ∉ first := ih (hparts ▸ List.mem_cons_self)
        exact List.not_mem_cons_of_ne_of_not_mem (Ne.symm hc) hfirst
      · exact ih (hparts ▸ List.mem_cons_of_mem _ hpart)

theorem splitCommas_of_not_mem {s : List Char} (hs : ',' ∉ s) : splitCommas s = [s] := by
  induction s with
  | nil => rfl
  | cons c rest ih =>
    have hc : c ≠ ',' := (List.ne_of_not_mem_cons hs).symm
    exact splitCommas_cons hc (ih (List.not_mem_of_not_mem_cons hs))

theorem splitCommas_append {first : List Char} (hfirst : ',' ∉ first) (rest : List Char) :
    splitCommas (first ++ ',' :: rest) = first :: splitCommas rest := by
  induction first with
  | nil => exact if_pos rfl
  | cons c others ih =>
    have hc : c ≠ ',' := (List.ne_of_not_mem_cons hfirst).symm
    exact splitCommas_cons hc (ih (List.not_mem_of_not_mem_cons hfirst))

theorem splitCommas_intercalate {pieces : List (List Char)} (hne : pieces ≠ [])
    (hpieces : ∀ piece ∈ pieces, ',' ∉ piece) :
    splitCommas (List.intercalate [','] pieces) = pieces := by
  induction pieces with
  | nil => exact absurd rfl hne
  | cons piece rest ih =>
    obtain ⟨hpiece, hrest⟩ := List.forall_mem_cons.mp hpieces
    cases rest with
    | nil => simpa [List.intercalate] using splitCommas_of_not_mem hpiece
    | cons next others =>
      rw [List.intercalate_cons_cons, List.append_assoc, List.singleton_append,
        splitCommas_append hpiece, ih (List.cons_ne_nil _ _) hrest]

/-- **A text is split into its pieces.** -/
theorem mem_splitCommas {part s : List Char} : part ∈ splitCommas s ↔ IsPiece part s := by
  constructor
  · intro h
    exact ⟨_, intercalate_splitCommas s, fun _ => not_mem_of_mem_splitCommas, h⟩
  · rintro ⟨pieces, rfl, hpieces, hpart⟩
    rwa [splitCommas_intercalate (List.ne_nil_of_mem hpart) hpieces]

end MatchMethod

/-! ## 2. What a pattern stands for -/

/-- The texts that a pattern with stars and question marks stands for. -/
inductive Glob : List Char → List Char → Prop
  | nil : Glob [] []
  /-- A star stands for any run of characters. -/
  | star {pattern text : List Char} (run : List Char) (rest : Glob pattern text) :
      Glob ('*' :: pattern) (run ++ text)
  /-- A question mark stands for any one character. -/
  | mark {pattern text : List Char} (c : Char) (rest : Glob pattern text) :
      Glob ('?' :: pattern) (c :: text)
  /-- Every other character stands for itself. -/
  | char {pattern text : List Char} {c : Char} (hstar : c ≠ '*') (hmark : c ≠ '?')
      (rest : Glob pattern text) : Glob (c :: pattern) (c :: text)

/-- The texts that a pattern stands for by one of the literal methods. -/
inductive MatchMethod.Denotes : MatchMethod → List Char → List Char → Prop
  | basic (pattern : List Char) : Denotes .basic pattern pattern
  | csv {pattern piece : List Char} (h : IsPiece piece pattern) :
      Denotes .csv pattern (Text.trimChars piece)
  | wildcard {pattern text : List Char} (h : Glob pattern text) : Denotes .wildcard pattern text

namespace MatchMethod

/-! ## 3. What the expression is read as -/

/-- A dot that every character matches. -/
def anyChar : Piece := .ofClass .all

/-- The piece of one character of a pattern with stars and question marks. -/
def wildcardPiece (c : Char) : Piece :=
  if c = '*' then anyChar.repeated ⟨0, none⟩
  else if c = '?' then anyChar
  else literal c

/-- The alternatives that the expression of a literal method is read as. -/
def alternatives (m : MatchMethod) (pattern : List Char) : List (List Piece) :=
  match m with
  | basic => [pattern.map literal]
  | csv => (splitCommas pattern).map fun part => (Text.trimChars part).map literal
  | wildcard => [pattern.map wildcardPiece]
  | regex => []

section Reading

variable {flags : Pattern.Flags} (hcase : flags.ignoreCase = false)
  (hverbose : flags.verbose = false) (hunicode : flags.unicode = true)
  (hdot : flags.dotAll = true)

include hunicode hdot in
/-- A dot is read as any character. -/
theorem readFrom_dot {p : Pattern.Progress} (hflags : p.inner.flags = flags) (rest : List Char) :
    Pattern.readFrom p ('.' :: rest) =
      Pattern.readFrom (p.withInner (p.inner.add anyChar)) rest := by
  refine Pattern.readFrom_of_step ?_
  rw [Pattern.step_piece (by decide) (fun h => absurd h.2 (by decide))
    (fun h => absurd h.2 (by decide)), hflags]
  have hclass : Pattern.dotClass? flags = some .all := by simp [Pattern.dotClass?, hunicode, hdot]
  have hpiece : (Pattern.readPiece flags '.').run rest = (.ok anyChar, rest) := by
    show (Pattern.Scan.require ((Pattern.dotClass? flags).map Piece.ofClass)).run rest = _
    rw [hclass]
    rfl
  exact Consumer.run_bind_of_ok hpiece _

/-- A star that no question mark follows repeats the last piece. -/
theorem readFrom_star {p : Pattern.Progress} {piece : Piece} (hpiece : piece.repeatable = true)
    {rest : List Char} (hrest : rest.head? ≠ some '?') :
    Pattern.readFrom (p.withInner (p.inner.add piece)) ('*' :: rest) =
      Pattern.readFrom (p.withInner (p.inner.add (piece.repeated ⟨0, none⟩))) rest := by
  refine Pattern.readFrom_of_step ?_
  rw [Pattern.step_mark (c := '*') rfl]
  have hgreedy : (Pattern.Scan.takeIf '?').run rest = (.ok false, rest) := by
    cases rest with
    | nil => rfl
    | cons c rest => exact if_neg fun hc => hrest (congrArg some hc)
  have hmark : (Pattern.readMark ⟨0, none⟩).run rest = (.ok ⟨0, none⟩, rest) :=
    Consumer.run_bind_of_ok hgreedy _
  refine (Consumer.run_bind_of_ok hmark _).trans ?_
  simp [Pattern.Level.repeatLast?, Pattern.Level.add, Pattern.Progress.withInner, hpiece,
    Pattern.Scan.require]

include hcase hverbose hunicode hdot

theorem readAs_wildcardChar (c : Char) : ReadAs flags (wildcardChar c) [wildcardPiece c] := by
  unfold wildcardChar wildcardPiece
  by_cases hstar : c = '*'
  · rw [if_pos hstar, if_pos hstar]
    refine ⟨by simp, fun p rest hflags hrest => ?_⟩
    exact (readFrom_dot hunicode hdot hflags ('*' :: rest)).trans (readFrom_star rfl hrest)
  · rw [if_neg hstar, if_neg hstar]
    by_cases hmark : c = '?'
    · rw [if_pos hmark, if_pos hmark]
      exact ⟨by simp, fun p rest hflags _ => readFrom_dot hunicode hdot hflags rest⟩
    · rw [if_neg hmark, if_neg hmark]
      exact Pattern.readAs_escape hcase hverbose [c]

/-- **The expression of a literal method is read as its alternatives.** -/
theorem branches_expression {m : MatchMethod} (hm : m ≠ .regex) (pattern : List Char) :
    Branches flags (m.expression pattern) (m.alternatives pattern) := by
  cases m with
  | basic => exact (Pattern.readAs_escape hcase hverbose pattern).toBranches
  | csv =>
    exact Pattern.branches_intercalate
      (fun part => Pattern.readAs_escape hcase hverbose (Text.trimChars part))
      (splitCommas_ne_nil pattern)
  | wildcard =>
    have hchars := readAs_wildcardChar hcase hverbose hunicode hdot
    exact (ReadAs.flatMap hchars pattern).toBranches
  | regex => exact absurd rfl hm

end Reading

theorem alternatives_ne_nil {m : MatchMethod} (hm : m ≠ .regex) (pattern : List Char) :
    m.alternatives pattern ≠ [] := by
  cases m with
  | basic | wildcard => exact List.cons_ne_nil _ _
  | csv => simpa [alternatives] using splitCommas_ne_nil pattern
  | regex => exact absurd rfl hm

theorem levels_alternatives {m : MatchMethod} {pattern : List Char} :
    ∀ branch ∈ m.alternatives pattern, ∀ piece ∈ branch, piece.levels ≤ 1 := by
  have hliterals : ∀ (s : List Char), ∀ piece ∈ s.map literal, piece.levels ≤ 1 := by
    intro s piece hpiece
    obtain ⟨c, -, rfl⟩ := List.mem_map.mp hpiece
    exact Nat.zero_le 1
  intro branch hbranch
  cases m with
  | basic =>
    rw [List.mem_singleton.mp hbranch]
    exact hliterals pattern
  | csv =>
    obtain ⟨part, -, rfl⟩ := List.mem_map.mp hbranch
    exact hliterals _
  | wildcard =>
    rw [List.mem_singleton.mp hbranch]
    intro piece hpiece
    obtain ⟨c, -, rfl⟩ := List.mem_map.mp hpiece
    unfold wildcardPiece
    split
    · exact Nat.le_refl 1
    · split <;> exact Nat.zero_le 1
  | regex => cases hbranch

/-! ## 4. What it spans -/

/-- Pieces for a pattern with stars and question marks span the texts that it stands for. -/
theorem spans_wildcards {pattern before part after : List Char} :
    (Regex.sequence ((pattern.map wildcardPiece).map (·.pattern))).Spans before part after ↔
      Glob pattern part := by
  induction pattern generalizing before part with
  | nil =>
    constructor
    · rintro rfl
      exact .nil
    · rintro ⟨⟩
      rfl
  | cons c rest ih =>
    rw [List.map_cons, List.map_cons, Regex.spans_sequence_cons]
    unfold wildcardPiece
    constructor
    · rintro ⟨p, q, rfl, hp, hq⟩
      have hrest : Glob rest q := ih.mp hq
      split at hp
      · rename_i hc
        exact hc ▸ .star p hrest
      · split at hp
        · rename_i hc
          obtain ⟨x, rfl⟩ := Regex.spans_anyChar.mp hp
          exact hc ▸ .mark x hrest
        · rename_i hstar hmark
          rw [Regex.spans_literal.mp hp]
          exact .char hstar hmark hrest
    · intro h
      cases h with
      | star run hrest => exact ⟨run, _, rfl, Regex.spans_anyText, ih.mpr hrest⟩
      | mark x hrest =>
        exact ⟨[x], _, rfl, Regex.spans_anyChar.mpr ⟨x, rfl⟩, ih.mpr hrest⟩
      | char hstar hmark hrest =>
        refine ⟨[c], _, rfl, ?_, ih.mpr hrest⟩
        rw [if_neg hstar, if_neg hmark]
        exact Regex.spans_literal.mpr rfl

/-- **The alternatives of a literal method span what the pattern stands for.** -/
theorem spans_alternatives {m : MatchMethod} {pattern before part after : List Char} :
    (∃ branch ∈ m.alternatives pattern,
      (Regex.sequence (branch.map (·.pattern))).Spans before part after) ↔
        m.Denotes pattern part := by
  cases m with
  | basic =>
    simp only [alternatives, List.mem_singleton, exists_eq_left, Regex.spans_literals]
    constructor
    · rintro rfl
      exact .basic part
    · rintro ⟨⟩
      rfl
  | csv =>
    simp only [alternatives, List.mem_map, exists_exists_and_eq_and, mem_splitCommas]
    constructor
    · rintro ⟨piece, hpiece, h⟩
      rw [Regex.spans_literals.mp h]
      exact .csv hpiece
    · rintro ⟨⟩
      rename_i piece hpiece
      exact ⟨piece, hpiece, Regex.spans_literals.mpr rfl⟩
  | wildcard =>
    simp only [alternatives, List.mem_singleton, exists_eq_left, spans_wildcards]
    constructor
    · exact .wildcard
    · rintro ⟨⟩
      assumption
  | regex =>
    constructor
    · rintro ⟨branch, hbranch, -⟩
      cases hbranch
    · rintro ⟨⟩

end MatchMethod

/-! ## 5. Matchers -/

namespace MatchOptions

variable {o : MatchOptions} {p : String}

/-- **The expression of a literal pattern matches what the pattern stands for.** -/
theorem exists_regex_of_literal (hpattern : o.pattern = some p) (hmethod : o.method ≠ .regex)
    (hcase : o.ignoreCase = false) : ∃ r, o.regex = .ok (some r) ∧ ∀ text : List Char,
      r.isMatch text = true ↔ ∃ y, (if o.anywhere then y <:+: text else y = text) ∧
        o.method.Denotes (o.prepare p.toList) y := by
  have hbranches : Branches o.flags (o.method.expression (o.prepare p.toList))
      (o.method.alternatives (o.prepare p.toList)) :=
    MatchMethod.branches_expression hcase rfl rfl rfl hmethod _
  have hne := MatchMethod.alternatives_ne_nil hmethod (o.prepare p.toList)
  have hregex : ∀ {r : Regex}, Regex.compile? o.flags (o.expression p.toList) = some r →
      o.regex = .ok (some r) := fun hr => (regex_eq_ok_iff hpattern).mpr ⟨_, hr, rfl⟩
  cases hanywhere : o.anywhere with
  | true =>
    obtain ⟨r, hr, hspans⟩ := Pattern.exists_compile_of_branches hbranches hne
      MatchMethod.levels_alternatives
    refine ⟨r, hregex (by rw [expression, hanywhere]; exact hr), fun text => ?_⟩
    simp only [Regex.isMatch_iff, hspans, MatchMethod.spans_alternatives, if_true]
    constructor
    · rintro ⟨before, part, after, rfl, h⟩
      exact ⟨part, ⟨before, after, List.append_assoc _ _ _⟩, h⟩
    · rintro ⟨part, ⟨before, after, rfl⟩, h⟩
      exact ⟨before, part, after, List.append_assoc _ _ _, h⟩
  | false =>
    obtain ⟨r, hr, hspans⟩ := Pattern.exists_compile_betweenEnds rfl hbranches hne
      MatchMethod.levels_alternatives
    refine ⟨r, hregex (by rw [expression, hanywhere]; exact hr), fun text => ?_⟩
    simp only [Regex.isMatch_iff, hspans rfl, MatchMethod.spans_alternatives,
      Regex.exists_whole_part, Bool.false_eq_true, if_false, exists_eq_left]

/-- **Literal options have a matcher, and it accepts the texts that the pattern stands for**, with
    letters in their own case. The text is trimmed first if the options say so; the empty text is
    decided by the options alone; any other text is accepted if it is one that the pattern stands
    for, or if some part of it is, where a part may match. -/
theorem accepts_iff_denotes (hpattern : o.pattern = some p) (hmethod : o.method ≠ .regex)
    (hcase : o.ignoreCase = false) : ∃ m, o.compile = .ok m ∧ ∀ text : String,
      let x := if o.trim then Text.trimChars text.toList else text.toList
      (x = [] → m.accepts text = o.matchEmpty) ∧
      (x ≠ [] → (m.accepts text = true ↔
        ∃ y, (if o.anywhere then y <:+: o.prepare x else y = o.prepare x) ∧
          o.method.Denotes (o.prepare p.toList) y)) := by
  obtain ⟨r, hr, hmatch⟩ := exists_regex_of_literal hpattern hmethod hcase
  obtain ⟨m, hm, rfl, hregex⟩ := exists_compile hr
  refine ⟨m, hm, fun text => ⟨fun hx => ?_, fun hx => ?_⟩⟩
  · exact TextMatcher.accepts_of_empty hregex hx
  · rw [TextMatcher.accepts_of_nonempty hregex hx]
    exact hmatch _

/-- Any one character stands between the two letters, a line feed, too. -/
theorem accepts_iff_denotes_between_letters :
    ∃ m, compile { method := .wildcard, pattern := some "a?c", trim := true } = .ok m ∧
      m.accepts " a\nc " = true ∧ m.accepts "ac" = false ∧ m.accepts " " = false := by
  obtain ⟨m, hm, h⟩ := accepts_iff_denotes
    (o := { method := .wildcard, pattern := some "a?c", trim := true }) rfl (by decide) rfl
  refine ⟨m, hm, ?_, ?_, (h " ").1 (by decide)⟩
  · have htext := (h " a\nc ").2 (by decide)
    have hglob : Glob "a?c".toList "a\nc".toList :=
      .char (by decide) (by decide) (.mark '\n' (.char (by decide) (by decide) .nil))
    exact htext.mpr ⟨"a\nc".toList, by decide, .wildcard hglob⟩
  · rw [← Bool.not_eq_true, (h "ac").2 (by decide)]
    rintro ⟨_, rfl, hdenotes⟩
    have hglob : Glob ['a', '?', 'c'] ['a', 'c'] := by
      cases hdenotes with
      | wildcard hglob => exact hglob
    cases hglob with
    | char _ _ hrest =>
      cases hrest with
      | mark _ hrest => nomatch hrest

end MatchOptions

end Verdict
