import Verdict.Proofs.Matcher.Literal
import Verdict.Proofs.Text.Diacritic

/-!
# Texts that differ in their marks

A matcher that ignores diacritics trims a text, lets its options decide if nothing is left, and only
then strips what is left of its marks. Two texts that are the same without their marks can part at
the first two steps: marks are something left, and whitespace behind marks is not trimmed.

* `held`: what is left of a text before it is stripped;
* `AnswersAlike`: texts that no matcher tells apart;
* `answersAlike_iff`: they are those for which what is left is the same without marks, and empty for
  both or for neither;
* `answersAlike_of_stripDiacritics_eq`: texts that are the same without their marks are among them
  unless all that is left of one is marks, or trimming stops at marks with whitespace behind them.
-/

namespace Verdict

open Text

namespace TextMatcher

/-! ## 1. What is compared -/

/-- What of a text is held against a pattern: the text, or what trimming leaves of it. -/
def held (trim : Bool) (text : String) : List Char :=
  if trim then trimChars text.toList else text.toList

/-- No matcher that ignores diacritics tells the two texts apart, among those that trim or those
    that do not. -/
def AnswersAlike (trim : Bool) (x y : String) : Prop :=
  ∀ (o : MatchOptions) (m : TextMatcher), o.compile = .ok m → o.ignoreDiacritic = true →
    o.trim = trim → m.accepts x = m.accepts y

/-- What is held is all that a matcher sees, and it sees it without marks. -/
theorem accepts_eq_of_held {m : TextMatcher} {x y : String}
    (hignore : m.options.ignoreDiacritic = true) (hempty : m.content x = [] ↔ m.content y = [])
    (hstrip : stripChars (m.content x) = stripChars (m.content y)) :
    m.accepts x = m.accepts y := by
  cases hregex : m.regex with
  | none => simp only [accepts, hregex]
  | some r =>
    by_cases hx : m.content x = []
    · rw [accepts_of_empty hregex hx, accepts_of_empty hregex (hempty.mp hx)]
    · have hy : m.content y ≠ [] := fun h => hx (hempty.mpr h)
      rw [accepts_of_nonempty hregex hx, accepts_of_nonempty hregex hy]
      simp only [MatchOptions.prepare, hignore, if_true, hstrip]

end TextMatcher

open TextMatcher (held)

/-- A literal pattern without its marks is held against whole texts without theirs. -/
theorem MatchOptions.exists_compile_of_whole {o : MatchOptions} {p : String}
    (hpattern : o.pattern = some p) (hmethod : o.method ≠ .regex) (hcase : o.ignoreCase = false)
    (hwhole : o.anywhere = false) (hignore : o.ignoreDiacritic = true) :
    ∃ m, o.compile = .ok m ∧ ∀ text : String,
      (held o.trim text = [] → m.accepts text = o.matchEmpty) ∧
      (held o.trim text ≠ [] → (m.accepts text = true ↔
        o.method.Denotes (stripChars p.toList) (stripChars (held o.trim text)))) := by
  obtain ⟨r, hr, hmatch⟩ := exists_regex_of_literal hpattern hmethod hcase
  obtain ⟨m, hm, rfl, hregex⟩ := exists_compile hr
  refine ⟨m, hm, fun text => ⟨TextMatcher.accepts_of_empty hregex, fun htext => ?_⟩⟩
  rw [TextMatcher.accepts_of_nonempty hregex htext, hmatch]
  simp only [hwhole, Bool.false_eq_true, if_false, exists_eq_left, prepare, hignore, if_true]
  rfl

namespace TextMatcher

/-! ## 2. What is told apart -/

/-- Any text that is not empty once it is trimmed has a matcher of its own. -/
theorem exists_compile_of_text (trim : Bool) (x : String) : ∃ o m, MatchOptions.compile o = .ok m ∧
    o.ignoreDiacritic = true ∧ o.trim = trim ∧ ∀ text, m.accepts text = true ↔
      held trim text ≠ [] ∧ stripChars (held trim text) = stripChars (held trim x) := by
  obtain ⟨m, hm, haccepts⟩ := MatchOptions.exists_compile_of_whole
    (o := { pattern := some (String.ofList (held trim x)), ignoreDiacritic := true, trim })
    rfl nofun rfl rfl rfl
  refine ⟨_, m, hm, rfl, rfl, fun text => ?_⟩
  by_cases htext : held trim text = []
  · rw [(haccepts text).1 htext]
    simp [htext]
  · rw [(haccepts text).2 htext, String.toList_ofList]
    constructor
    · intro h
      generalize stripChars (held trim text) = s at h ⊢
      cases h
      exact ⟨htext, rfl⟩
    · intro h
      rw [h.2]
      exact .basic _

/-- Where something is held of one of two texts that answer alike, the same is held of the other. -/
theorem AnswersAlike.held_eq {trim : Bool} {x y : String} (h : AnswersAlike trim x y)
    (hx : held trim x ≠ []) :
    held trim y ≠ [] ∧ stripChars (held trim y) = stripChars (held trim x) := by
  obtain ⟨o, m, hm, hignore, htrim, haccepts⟩ := exists_compile_of_text trim x
  have hself : m.accepts x = true := (haccepts x).mpr ⟨hx, rfl⟩
  rw [h o m hm hignore htrim] at hself
  exact (haccepts y).mp hself

theorem AnswersAlike.symm {trim : Bool} {x y : String} (h : AnswersAlike trim x y) :
    AnswersAlike trim y x :=
  fun o m hm hignore htrim => (h o m hm hignore htrim).symm

/-- **Two texts answer alike exactly if what is held of them is empty for both or for neither, and
    the same without marks.** -/
theorem answersAlike_iff {trim : Bool} {x y : String} : AnswersAlike trim x y ↔
    (held trim x = [] ↔ held trim y = []) ∧
      stripChars (held trim x) = stripChars (held trim y) := by
  constructor
  · intro h
    by_cases hx : held trim x = []
    · have hy : held trim y = [] := by
        by_contra hy
        exact (h.symm.held_eq hy).1 hx
      rw [hx, hy]
      exact ⟨Iff.rfl, rfl⟩
    · obtain ⟨hy, hstrip⟩ := h.held_eq hx
      exact ⟨iff_of_false hx hy, hstrip.symm⟩
  · intro h o m hm hignore htrim
    have hoptions := MatchOptions.compile_eq_ok_iff.mp hm
    subst hoptions htrim
    exact accepts_eq_of_held hignore h.1 h.2

/-! ## 3. Texts that are the same without their marks -/

theorem stripDiacritics_eq_iff {x y : String} :
    stripDiacritics x = stripDiacritics y ↔ stripChars x.toList = stripChars y.toList := by
  rw [stripDiacritics, stripDiacritics, String.ofList_inj]

/-- Where a trimmed text hides no whitespace, stripping it leaves what trimming the stripped text
    does. -/
theorem stripChars_held {x : String} (h : ¬HidesBlank (held true x)) :
    stripChars (held true x) = trimChars (stripChars x.toList) := by
  rw [← trimChars_stripChars_trimChars x.toList]
  exact (trimChars_stripChars_eq_self_iff.mpr h).symm

/-- A text in which trimming stops at marks with whitespace behind them is told apart from the same
    text without its marks. -/
theorem exists_not_answersAlike {x : String} (h : HidesBlank (held true x)) :
    ∃ z, stripDiacritics z = stripDiacritics x ∧ ¬AnswersAlike true x z := by
  obtain ⟨z, hz⟩ : ∃ z : String, z.toList = x.toList.filter fun c => stripChars [c] ≠ [] :=
    ⟨String.ofList _, String.toList_ofList⟩
  have hstrip : stripChars z.toList = stripChars x.toList := by rw [hz, stripChars_filter]
  have hplain : ¬HidesBlank (held true z) := by
    refine not_hidesBlank_of_kept (trimChars_trimChars _) fun c hc => ?_
    have hmem : c ∈ z.toList := mem_of_mem_trimChars hc
    rw [hz] at hmem
    simpa using (List.mem_filter.mp hmem).2
  refine ⟨z, stripDiacritics_eq_iff.mpr hstrip, fun halike => ?_⟩
  have hheld := (answersAlike_iff.mp halike).2
  rw [stripChars_held hplain, hstrip, ← trimChars_stripChars_trimChars] at hheld
  exact trimChars_stripChars_eq_self_iff.mp hheld.symm h

/-- **Matchers that ignore diacritics are blind to marks in what they hold against the pattern.**
    Of two texts that are the same without their marks, they accept both or neither, whatever the
    method, the pattern and the other flags, exactly if what trimming leaves is empty for both or for
    neither and is the same without marks; and it is the same without marks wherever no text is
    trimmed or no trimmed text hides whitespace. Hidden whitespace does tell a text apart. -/
theorem answersAlike_of_stripDiacritics_eq {x y : String}
    (h : stripDiacritics x = stripDiacritics y) (trim : Bool) :
    (AnswersAlike trim x y ↔ (held trim x = [] ↔ held trim y = []) ∧
      stripChars (held trim x) = stripChars (held trim y)) ∧
    ((trim = true → ¬HidesBlank (held trim x) ∧ ¬HidesBlank (held trim y)) →
      stripChars (held trim x) = stripChars (held trim y)) ∧
    (trim = true → HidesBlank (held trim x) →
      ∃ z, stripDiacritics z = stripDiacritics x ∧ ¬AnswersAlike trim x z) := by
  have hstrip := stripDiacritics_eq_iff.mp h
  refine ⟨answersAlike_iff, fun hshown => ?_, fun htrim hhidden => ?_⟩
  · cases trim with
    | false => exact hstrip
    | true =>
      obtain ⟨hx, hy⟩ := hshown rfl
      rw [stripChars_held hx, stripChars_held hy, hstrip]
  · subst htrim
    exact exists_not_answersAlike hhidden

/-- A letter with its accent, and the letter before the accent, with blanks around them. -/
theorem answersAlike_of_stripDiacritics_eq_accents : AnswersAlike true " é " " e\u0301 " := by
  have hstrip : stripDiacritics " é " = stripDiacritics " e\u0301 " := by decide +kernel
  obtain ⟨hiff, hshown, -⟩ := answersAlike_of_stripDiacritics_eq hstrip true
  refine hiff.mpr ⟨by decide, hshown fun _ => ⟨?_, ?_⟩⟩
  · exact trimChars_stripChars_eq_self_iff.mp (by decide +kernel)
  · exact trimChars_stripChars_eq_self_iff.mp (by decide +kernel)

/-- A mark is something left of a text, and a blank behind a mark is not trimmed. -/
theorem accepts_ne_of_stripDiacritics_eq :
    (stripDiacritics "\u0301 a" = stripDiacritics " a" ∧
      ∃ m, MatchOptions.compile { pattern := some "a", ignoreDiacritic := true, trim := true } = .ok m ∧
        m.accepts "\u0301 a" = false ∧ m.accepts " a" = true) ∧
    (stripDiacritics "\u0301" = stripDiacritics "" ∧
      ∃ m, MatchOptions.compile
          { method := .wildcard, pattern := some "*", ignoreDiacritic := true } = .ok m ∧
        m.accepts "\u0301" = true ∧ m.accepts "" = false) := by
  constructor
  · refine ⟨by decide +kernel, ?_⟩
    obtain ⟨m, hm, haccepts⟩ := MatchOptions.exists_compile_of_whole
      (o := { pattern := some "a", ignoreDiacritic := true, trim := true }) rfl nofun rfl rfl rfl
    have hpattern : stripChars "a".toList = ['a'] := by decide +kernel
    refine ⟨m, hm, ?_, ?_⟩
    · have hheld : stripChars (held true "\u0301 a") = [' ', 'a'] := by decide +kernel
      rw [← Bool.not_eq_true, (haccepts "\u0301 a").2 (by decide), hpattern, hheld]
      intro h
      cases h
    · have hheld : stripChars (held true " a") = ['a'] := by decide +kernel
      rw [(haccepts " a").2 (by decide), hpattern, hheld]
      exact .basic _
  · refine ⟨by decide +kernel, ?_⟩
    obtain ⟨m, hm, haccepts⟩ := MatchOptions.exists_compile_of_whole
      (o := { method := .wildcard, pattern := some "*", ignoreDiacritic := true })
      rfl nofun rfl rfl rfl
    refine ⟨m, hm, ?_, (haccepts "").1 rfl⟩
    have hheld : stripChars (held false "\u0301") = [] := by decide +kernel
    have hpattern : stripChars "*".toList = ['*'] := by decide +kernel
    rw [(haccepts "\u0301").2 (by decide), hpattern, hheld]
    exact .wildcard (.star [] .nil)

end TextMatcher

end Verdict
