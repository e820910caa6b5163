import Verdict.Proofs.Matcher.Basic
import Verdict.Proofs.Regex.Anchoring
import Verdict.Proofs.Regex.Literal
import Verdict.Proofs.Regex.Matching
import Verdict.Proofs.Regex.Span

/-!
# Regular expressions for whole texts

A regular expression that must match the whole text is put between the two ends as it is written.
Here the matcher that results is compared with that of the expression for parts of texts, which
takes it alone.

* `inParts`: the same options, where a part of the text may match;
* `NestsWithin`: a bound on the levels of a pattern's notation;
* `regex_inParts_iff`, `regex_whole_iff`: when the two have an expression;
* **`MatchOptions.whole_iff_inParts`**: what the expression for whole texts has to do with that for
  parts;
* `whole_overcloses`: a pattern that is refused alone, but not for whole texts.
-/

namespace Verdict.MatchOptions

open Pattern (Branches MayEndInComment Overcloses closing literal maxLevels readAs_escape readFrom
  exists_compile_of_branches)

/-- The same options, where a part of the text may match. -/
def inParts (o : MatchOptions) : MatchOptions := { o with anywhere := true }

/-- The notation of the pattern has at most `n` levels, if it is a pattern. -/
def NestsWithin (n : Nat) (flags : Pattern.Flags) (s : List Char) : Prop :=
  ∀ piece, readFrom { inner := { flags } } s = some piece → piece.levels ≤ n

theorem compile?_eq_some_iff {flags : Pattern.Flags} {s : List Char} {r : Regex} :
    Regex.compile? flags s = some r ↔ ∃ piece, readFrom { inner := { flags } } s = some piece ∧
      piece.levels ≤ maxLevels ∧ piece.pattern = r := by
  rw [Regex.compile?]
  split
  · rename_i piece hpiece
    rw [hpiece]
    split <;> simp_all
  · rename_i hnone
    simp [hnone]

variable {o : MatchOptions} {p : String}

theorem regex_eq_ok_iff_readFrom (hpattern : o.pattern = some p) {s : List Char}
    (hexpression : o.expression p.toList = s) {r : Option Regex} :
    o.regex = .ok r ↔ ∃ piece, readFrom { inner := { flags := o.flags } } s = some piece ∧
      piece.levels ≤ maxLevels ∧ r = some piece.pattern := by
  rw [regex_eq_ok_iff hpattern, hexpression]
  simp only [compile?_eq_some_iff]
  constructor
  · rintro ⟨_, ⟨piece, hread, hlevels, rfl⟩, rfl⟩
    exact ⟨piece, hread, hlevels, rfl⟩
  · rintro ⟨piece, hread, hlevels, rfl⟩
    exact ⟨_, ⟨piece, hread, hlevels, rfl⟩, rfl⟩

section Expressions

variable (hpattern : o.pattern = some p) (hmethod : o.method = .regex)
  (hdiacritic : o.ignoreDiacritic = false)

include hpattern hmethod hdiacritic

/-- Where a part may match, the expression is the pattern alone. -/
theorem regex_inParts_iff {r : Option Regex} : o.inParts.regex = .ok r ↔
    ∃ piece, readFrom { inner := { flags := o.flags } } p.toList = some piece ∧
      piece.levels ≤ maxLevels ∧ r = some piece.pattern := by
  refine regex_eq_ok_iff_readFrom (o := o.inParts) hpattern ?_
  simp [expression, inParts, prepare, MatchMethod.expression, hmethod, hdiacritic]

variable (hwhole : o.anywhere = false)

include hwhole

/-- For whole texts, the expression is the pattern between the two ends. -/
theorem regex_whole_iff {r : Option Regex} : o.regex = .ok r ↔
    ∃ piece, readFrom { inner := { flags := o.flags } } ("^(?:".toList ++ p.toList ++ closing) =
      some piece ∧ piece.levels ≤ maxLevels ∧ r = some piece.pattern := by
  refine regex_eq_ok_iff_readFrom hpattern ?_
  simp [expression, prepare, MatchMethod.expression, hmethod, hdiacritic, hwhole, closing]

/-- Only a pattern that overcloses is sound for whole texts, but not alone. -/
theorem inParts_of_whole (h : ∃ m, o.compile = .ok m)
    (hover : ¬ Overcloses { inner := { flags := o.flags } } p.toList) :
    ∃ m, o.inParts.compile = .ok m := by
  obtain ⟨m, hm⟩ := h
  obtain ⟨whole, hread, hlevels, -⟩ :=
    (regex_whole_iff hpattern hmethod hdiacritic hwhole).mp (regex_of_compile hm)
  rcases Pattern.readFrom_anchored rfl hover with ⟨piece, halone, -, hwhole⟩ | ⟨hnone, -⟩
  · cases hwhole.symm.trans hread
    rw [Pattern.levels_betweenEnds] at hlevels
    have hregex := (regex_inParts_iff hpattern hmethod hdiacritic).mpr
      ⟨piece, halone, Nat.le_trans (Nat.le_add_right _ 2) hlevels, rfl⟩
    exact (exists_compile hregex).imp fun _ h => h.1
  · nomatch hnone.symm.trans hread

/-- A pattern that is sound alone is sound for whole texts exactly if the closing behind it is read
    as such. -/
theorem whole_iff_closing (h : ∃ m, o.inParts.compile = .ok m)
    (hnests : NestsWithin (maxLevels - 2) o.flags p.toList) :
    (∃ m, o.compile = .ok m) ↔
      Overcloses { inner := { flags := o.flags } } (p.toList ++ closing) := by
  obtain ⟨part, hpart⟩ := h
  obtain ⟨piece, halone, -, -⟩ :=
    (regex_inParts_iff hpattern hmethod hdiacritic).mp (regex_of_compile hpart)
  have hregex {r : Option Regex} := regex_whole_iff hpattern hmethod hdiacritic hwhole (r := r)
  rcases Pattern.readFrom_anchored_of_readFrom rfl halone with
    ⟨hclosing, hanchored⟩ | ⟨hclosing, -, hnone⟩
  · refine iff_of_true ?_ hclosing
    have hlevels : (Pattern.betweenEnds o.flags piece).levels ≤ maxLevels := by
      rw [Pattern.levels_betweenEnds]
      exact Nat.add_le_of_le_sub (by decide) (hnests piece halone)
    exact (exists_compile (hregex.mpr ⟨_, hanchored, hlevels, rfl⟩)).imp fun _ h => h.1
  · refine iff_of_false (fun ⟨m, hm⟩ => ?_) hclosing
    obtain ⟨whole, hwhole, -, -⟩ := hregex.mp (regex_of_compile hm)
    nomatch hnone.symm.trans hwhole

omit hwhole in
/-- Behind a pattern that cannot end in a comment, the closing is read as such. -/
theorem closing_of_not_mayEndInComment (h : ∃ m, o.inParts.compile = .ok m)
    (hcomment : ¬ MayEndInComment p.toList) :
    Overcloses { inner := { flags := o.flags } } (p.toList ++ closing) := by
  obtain ⟨part, hpart⟩ := h
  obtain ⟨piece, halone, -, -⟩ :=
    (regex_inParts_iff hpattern hmethod hdiacritic).mp (regex_of_compile hpart)
  rcases Pattern.readFrom_anchored_of_readFrom rfl halone with ⟨hclosing, -⟩ | ⟨-, hmay, -⟩
  · exact hclosing
  · exact absurd hmay hcomment

/-- Where both are sound, the one for whole texts accepts what the pattern matches as a whole. -/
theorem accepts_whole {whole part : TextMatcher} (hm : o.compile = .ok whole)
    (hpart : o.inParts.compile = .ok part) : ∃ r, part.regex = some r ∧
      ∀ text : String, whole.content text ≠ [] →
        (whole.accepts text = true ↔ r.Spans [] (whole.content text) []) := by
  obtain ⟨piece, halone, -, hr⟩ :=
    (regex_inParts_iff hpattern hmethod hdiacritic).mp (regex_of_compile hpart)
  obtain ⟨anchored, hread, -, hregex⟩ :=
    (regex_whole_iff hpattern hmethod hdiacritic hwhole).mp (regex_of_compile hm)
  refine ⟨piece.pattern, hr, fun text hempty => ?_⟩
  rcases Pattern.readFrom_anchored_of_readFrom rfl halone with ⟨-, hanchored⟩ | ⟨-, -, hnone⟩
  · cases hanchored.symm.trans hread
    have hprepare : whole.options.prepare (whole.content text) = whole.content text := by
      rw [compile_eq_ok_iff.mp hm, prepare, hdiacritic]
      rfl
    rw [TextMatcher.accepts_of_nonempty hregex hempty, hprepare, Pattern.pattern_betweenEnds rfl,
      Regex.isMatch_iff]
    simp only [Regex.spans_between_ends, Regex.exists_whole_part]
  · nomatch hnone.symm.trans hread

/-- **What an expression for whole texts has to do with the pattern alone.** First, it is sound only
    if the pattern is sound alone, unless the pattern closes a group that it has not opened. Second,
    where the pattern is sound alone and does not nest too deep, it is sound exactly if the closing
    behind the pattern is read as such, as it is unless a comment takes the closing in. Third, where
    both are sound, the matcher accepts the texts that the pattern alone matches as a whole. -/
theorem whole_iff_inParts :
    ((∃ m, o.compile = .ok m) → ¬ Overcloses { inner := { flags := o.flags } } p.toList →
      ∃ m, o.inParts.compile = .ok m) ∧
    ((∃ m, o.inParts.compile = .ok m) → NestsWithin (maxLevels - 2) o.flags p.toList →
      ((∃ m, o.compile = .ok m) ↔
        Overcloses { inner := { flags := o.flags } } (p.toList ++ closing))) ∧
    ((∃ m, o.inParts.compile = .ok m) → ¬ MayEndInComment p.toList →
      Overcloses { inner := { flags := o.flags } } (p.toList ++ closing)) ∧
    ∀ whole part, o.compile = .ok whole → o.inParts.compile = .ok part →
      ∃ r, part.regex = some r ∧ ∀ text : String, whole.content text ≠ [] →
        (whole.accepts text = true ↔ r.Spans [] (whole.content text) []) :=
  ⟨inParts_of_whole hpattern hmethod hdiacritic hwhole,
    whole_iff_closing hpattern hmethod hdiacritic hwhole,
    closing_of_not_mayEndInComment hpattern hmethod hdiacritic,
    fun _ _ hm hpart => accepts_whole hpattern hmethod hdiacritic hwhole hm hpart⟩

end Expressions

/-- Either alternative may match, but not the one behind the other. -/
theorem whole_iff_inParts_alternatives :
    ∃ m, compile { method := .regex, pattern := some "a|b" } = .ok m ∧
      m.accepts "b" = true ∧ m.accepts "ab" = false := by
  let o : MatchOptions := { method := .regex, pattern := some "a|b" }
  have hbranches : Branches o.flags "a|b".toList [[literal 'a'], [literal 'b']] :=
    (readAs_escape rfl rfl ['a']).bar (readAs_escape rfl rfl ['b']).toBranches
  obtain ⟨e, he, hspans⟩ := exists_compile_of_branches hbranches (by decide) (by decide)
  have hregex : o.inParts.regex = .ok (some e) := (regex_eq_ok_iff rfl).mpr ⟨e, he, rfl⟩
  obtain ⟨part, hpart, -, hr⟩ := exists_compile hregex
  have hnests : ∀ piece ∈ readFrom { inner := { flags := o.flags } } "a|b".toList,
      piece.levels ≤ maxLevels - 2 := by decide +kernel
  have hcomment : ¬ MayEndInComment "a|b".toList := by
    rintro ⟨before, comment, h, -⟩
    have hmem : '#' ∈ "a|b".toList := h ▸ List.mem_append_right before List.mem_cons_self
    exact absurd hmem (by decide)
  obtain ⟨-, hiff, hclosing, haccepts⟩ := whole_iff_inParts (o := o) rfl rfl rfl rfl
  obtain ⟨m, hm⟩ := (hiff ⟨part, hpart⟩ hnests).mpr (hclosing ⟨part, hpart⟩ hcomment)
  obtain ⟨r, hr', hwhole⟩ := haccepts m part hm hpart
  cases hr'.symm.trans hr
  have hcontent (text : String) : m.content text = text.toList := by
    rw [TextMatcher.content, compile_eq_ok_iff.mp hm]
    rfl
  have haccepts (text : String) (hempty : text.toList ≠ []) :
      m.accepts text = true ↔ text.toList = ['a'] ∨ text.toList = ['b'] := by
    rw [hwhole text (hcontent text ▸ hempty), hcontent, hspans]
    simp [Regex.sequence, Regex.spans_literal]
  refine ⟨m, hm, (haccepts "b" (by decide)).mpr (by decide), ?_⟩
  rw [← Bool.not_eq_true, haccepts "ab" (by decide)]
  decide

/-- The first parenthesis closes the group around the pattern, and the last one opens another, so a
    pattern that is refused alone has a matcher for whole texts. -/
theorem whole_overcloses :
    (∃ m, compile { method := .regex, pattern := some "a)(b" } = .ok m ∧ m.accepts "ab" = true) ∧
      compile { method := .regex, pattern := some "a)(b", anywhere := true } =
        .error .invalidPattern := by
  let o : MatchOptions := { method := .regex, pattern := some "a)(b" }
  have hwhole : ∃ e ∈ Regex.compile? o.flags (o.expression "a)(b".toList),
      e.isMatch "ab".toList = true := by decide +kernel
  have hpart : (Regex.compile? o.flags (o.inParts.expression "a)(b".toList)).isNone = true := by
    decide +kernel
  obtain ⟨e, he, hmatch⟩ := hwhole
  obtain ⟨m, hm, hoptions, hr⟩ := exists_compile ((regex_eq_ok_iff rfl).mpr ⟨e, he, rfl⟩)
  have hcontent : m.content "ab" = "ab".toList := by
    rw [TextMatcher.content, hoptions]
    rfl
  refine ⟨⟨m, hm, ?_⟩, compile_eq_error (regex_eq_error rfl (Option.isNone_iff_eq_none.mp hpart))⟩
  rw [TextMatcher.accepts_of_nonempty hr (by rw [hcontent]; decide), hcontent, hoptions]
  exact hmatch

end Verdict.MatchOptions
