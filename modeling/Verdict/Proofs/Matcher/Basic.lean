import Verdict.Matcher.Basic

/-!
# Matchers and their expressions

* `compile_eq_ok_iff`: the matcher of the options is the one with these options;
* `exists_compile`, `regex_of_compile`, `compile_eq_error`: there is one exactly if there is an
  expression;
* `regex_eq_ok_iff`, `regex_eq_error`: that is the pattern's, as text;
* `accepts_of_empty`, `accepts_of_nonempty`: what a matcher accepts.
-/

namespace Verdict

variable {o : MatchOptions} {m : TextMatcher}

namespace MatchOptions

theorem exists_compile {r : Option Regex} (h : o.regex = .ok r) :
    ∃ m, o.compile = .ok m ∧ m.options = o ∧ m.regex = r := by
  unfold compile
  split
  · rename_i r' h'
    exact ⟨_, rfl, rfl, Except.ok.inj (h'.symm.trans h)⟩
  · rename_i h'
    cases h'.symm.trans h

/-- **A matcher is that of its options.** -/
theorem compile_eq_ok_iff : o.compile = .ok m ↔ m.options = o := by
  constructor
  · intro h
    unfold compile at h
    split at h <;> cases h
    rfl
  · rintro rfl
    obtain ⟨m', h, hoptions, -⟩ := exists_compile m.compiled
    rw [h, TextMatcher.ext hoptions]

theorem regex_of_compile (h : o.compile = .ok m) : o.regex = .ok m.regex :=
  compile_eq_ok_iff.mp h ▸ m.compiled

theorem compile_eq_error {e : MatcherError} (h : o.regex = .error e) : o.compile = .error e := by
  unfold compile
  split
  · rename_i h'
    cases h'.symm.trans h
  · rename_i h'
    rw [Except.error.inj (h'.symm.trans h)]

/-- The expression of options with a pattern is that of its text. -/
theorem regex_eq_ok_iff {p : String} (hpattern : o.pattern = some p) {r : Option Regex} :
    o.regex = .ok r ↔
      ∃ e, Regex.compile? o.flags (o.expression p.toList) = some e ∧ r = some e := by
  rw [regex, hpattern]
  dsimp only
  split
  · rename_i e he
    rw [Except.ok.injEq, he, eq_comm]
    simp
  · rename_i hnone
    simp [hnone]

/-- Without one, its text is refused. -/
theorem regex_eq_error {p : String} (hpattern : o.pattern = some p)
    (h : Regex.compile? o.flags (o.expression p.toList) = none) :
    o.regex = .error .invalidPattern := by
  rw [regex, hpattern]
  dsimp only
  rw [h]

end MatchOptions

namespace TextMatcher

/-- What of a text is held against the pattern. -/
def content (m : TextMatcher) (text : String) : List Char :=
  if m.options.trim then Text.trimChars text.toList else text.toList

variable {r : Regex} {text : String}

theorem accepts_of_empty (h : m.regex = some r) (hempty : m.content text = []) :
    m.accepts text = m.options.matchEmpty := by
  simp only [accepts, h]
  exact if_pos (List.isEmpty_iff.mpr hempty)

/-- **A text that is not empty is decided by the expression.** -/
theorem accepts_of_nonempty (h : m.regex = some r) (hempty : m.content text ≠ []) :
    m.accepts text = r.isMatch (m.options.prepare (m.content text)) := by
  simp only [accepts, h]
  exact if_neg fun h => hempty (List.isEmpty_iff.mp h)

end TextMatcher

end Verdict
