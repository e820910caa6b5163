import Verdict.Proofs.Consumer
import Verdict.Proofs.Matcher.Basic
import Verdict.Proofs.Matcher.Codec

/-!
# What the attributes of a text matcher say

Attributes may repeat a name. The names are checked for all of them, and the values for the first
one of each name.

* `LeafElement.attribute?_of_first`, `attribute?_repeated`, `only_repeated`: look-ups in attributes
  with repetitions;
* `readOptions_eq_ok_iff`: which options the attributes of an element give;
* `Reflects`: an attribute says what the options of a matcher say;
* **`readElement_repeated`**: the reading of an element is the same without a repetition;
* **`readElement_reflects`**: of an element that is accepted the first attribute of each name is
  reflected, and every other one is passed over.
-/

namespace Verdict

/-! ## 1. Repeated names -/

namespace LeafElement

variable {tag : String} {before after : List Attribute}

/-- The first attribute of its name is the one that is found. -/
theorem attribute?_of_first {a : Attribute} (h : ∀ b ∈ before, b.name ≠ a.name) :
    attribute? ⟨tag, before ++ a :: after⟩ a.name = some a.value := by
  have hbefore : attribute? ⟨tag, before⟩ a.name = none := by
    unfold attribute?
    rw [List.find?_eq_none.mpr fun b hb => by simpa using h b hb]
    rfl
  rw [TextMatcher.attribute?_append, hbefore, Option.none_or, TextMatcher.attribute?_cons,
    if_pos rfl]

variable {repeated : Attribute} (h : ∃ b ∈ before, b.name = repeated.name)

include h

/-- An attribute behind one of its name is never found. -/
theorem attribute?_repeated (name : String) :
    attribute? ⟨tag, before ++ repeated :: after⟩ name = attribute? ⟨tag, before ++ after⟩ name := by
  rw [TextMatcher.attribute?_append, TextMatcher.attribute?_append, TextMatcher.attribute?_cons]
  split
  · rename_i hname
    have hfound : (before.find? fun a => a.name == name).isSome = true := by
      obtain ⟨b, hb, hrepeated⟩ := h
      rw [List.find?_isSome]
      exact ⟨b, hb, by simpa using hrepeated.trans hname⟩
    obtain ⟨b, hb⟩ := Option.isSome_iff_exists.mp hfound
    have hbefore : attribute? ⟨tag, before⟩ name = some b.value := by
      unfold attribute?
      rw [hb]
      rfl
    rw [hbefore, Option.some_or, Option.some_or]
  · rfl

/-- Its name is known if that of the one before it is. -/
theorem only_repeated (known : List String) :
    only ⟨tag, before ++ repeated :: after⟩ known = only ⟨tag, before ++ after⟩ known := by
  have hfind : (before ++ repeated :: after).find? (fun a => !known.contains a.name) =
      (before ++ after).find? fun a => !known.contains a.name := by
    rw [List.find?_append, List.find?_append, List.find?_cons]
    cases hunknown : !known.contains repeated.name with
    | false => rfl
    | true =>
      obtain ⟨b, hb, hname⟩ := h
      have hfound : (before.find? fun a => !known.contains a.name).isSome = true := by
        rw [List.find?_isSome]
        exact ⟨b, hb, by rwa [hname]⟩
      obtain ⟨first, hfirst⟩ := Option.isSome_iff_exists.mp hfound
      rw [hfirst, Option.some_or, Option.some_or]
  unfold only
  rw [hfind]

/-- So the value of a yes-or-no attribute is that of the first one. -/
theorem flag_repeated (name : String) (absent : Bool) :
    flag ⟨tag, before ++ repeated :: after⟩ name absent =
      flag ⟨tag, before ++ after⟩ name absent := by
  unfold flag
  rw [attribute?_repeated h]

end LeafElement

namespace TextMatcher

/-! ## 2. What is read -/

theorem only_eq_ok_iff {e : LeafElement} {known : List String} :
    e.only known = .ok () ↔ ∀ a ∈ e.attributes, a.name ∈ known := by
  unfold LeafElement.only
  cases hfind : e.attributes.find? fun a => !known.contains a.name with
  | none => simpa using hfind
  | some a =>
    have hunknown : a.name ∉ known := by simpa using List.find?_some hfind
    have hmem := List.mem_of_find?_eq_some hfind
    constructor
    · intro h
      cases h
    · intro h
      exact absurd (h a hmem) hunknown

/-- The value that a yes-or-no attribute has. -/
def flagValue (set : Bool) : String := if set then "true" else "false"

theorem flag_eq_ok_iff {e : LeafElement} {name : String} {set : Bool} :
    e.flag name false = .ok set ↔ match e.attribute? name with
      | none => set = false
      | some value => value = flagValue set := by
  unfold LeafElement.flag
  cases e.attribute? name with
  | none => simp [eq_comm]
  | some value =>
    by_cases htrue : value = "true"
    · cases set <;> simp [htrue, flagValue]
    · by_cases hfalse : value = "false"
      · cases set <;> simp [hfalse, flagValue]
      · cases set <;> simp [htrue, hfalse, flagValue]

/-- The method that an element names; the default if it names none. -/
def readMethod (e : LeafElement) : Except LeafError MatchMethod :=
  match e.attribute? methodAttribute with
  | some name => (MatchMethod.ofName name).mapError .matcher
  | none => pure .basic

theorem bind_eq_ok_iff {ε α β : Type} {x : Except ε α} {f : α → Except ε β} {b : β} :
    (x >>= f) = .ok b ↔ ∃ a, x = .ok a ∧ f a = .ok b := by
  cases x <;> simp [bind, Except.bind]

theorem mapError_eq_ok_iff {ε ε' α : Type} {x : Except ε α} {f : ε → ε'} {a : α} :
    x.mapError f = .ok a ↔ x = .ok a := by
  cases x with
  | error e => exact ⟨nofun, nofun⟩
  | ok b =>
    show Except.ok b = .ok a ↔ _
    rw [Except.ok.injEq, Except.ok.injEq]

/-- **The attributes give options if all of their names are known**, the one that names the method
    names that of the options, and each other one says what its option is. -/
theorem readOptions_eq_ok_iff {e : LeafElement} {o : MatchOptions} :
    readOptions e = .ok o ↔ (∀ a ∈ e.attributes, a.name ∈ attributeNames) ∧
      readMethod e = .ok o.method ∧
      (∀ flag ∈ flagAttributes o, e.flag flag.1 false = .ok flag.2) ∧ o.pattern = none := by
  have hread : readOptions e = (do
      (e.only attributeNames).mapError .document
      let method ← readMethod e
      let ignoreCase ← (e.flag "ignoreCase" false).mapError .document
      let ignoreDiacritic ← (e.flag "ignoreDiacritic" false).mapError .document
      let anywhere ← (e.flag "partial" false).mapError .document
      let trim ← (e.flag "trim" false).mapError .document
      let matchEmpty ← (e.flag "matchEmpty" false).mapError .document
      return { method, ignoreCase, ignoreDiacritic, anywhere, trim, matchEmpty }) := by
    unfold readOptions readMethod
    cases e.attribute? methodAttribute <;> rfl
  rw [hread]
  simp only [bind_eq_ok_iff, mapError_eq_ok_iff, pure, Except.pure, Except.ok.injEq,
    flagAttributes, List.forall_mem_cons, List.not_mem_nil, false_implies, implies_true, and_true,
    ← only_eq_ok_iff]
  constructor
  · rintro ⟨_, hknown, method, hmethod, _, h₁, _, h₂, _, h₃, _, h₄, _, h₅, rfl⟩
    exact ⟨hknown, hmethod, ⟨h₁, h₂, h₃, h₄, h₅⟩, rfl⟩
  · rintro ⟨hknown, hmethod, ⟨h₁, h₂, h₃, h₄, h₅⟩, hpattern⟩
    refine ⟨_, hknown, _, hmethod, _, h₁, _, h₂, _, h₃, _, h₄, _, h₅, ?_⟩
    rw [← hpattern]

/-! ## 3. Accepted elements -/

/-- The attribute says what the options say: it names their method, or its value is that of one of
    their yes-or-no options. -/
def Reflects (o : MatchOptions) (a : Attribute) : Prop :=
  (a.name = methodAttribute ∧ MatchMethod.ofName a.value = .ok o.method) ∨
    ∃ set, (a.name, set) ∈ flagAttributes o ∧ a.value = flagValue set

theorem mem_attributeNames_iff {name : String} (o : MatchOptions) :
    name ∈ attributeNames ↔ name = methodAttribute ∨ ∃ set, (name, set) ∈ flagAttributes o := by
  have hnames : attributeNames = methodAttribute :: (flagAttributes o).map Prod.fst := rfl
  rw [hnames, List.mem_cons, List.mem_map]
  simp only [Prod.exists, exists_and_right, exists_eq_right]

/-- **The first attribute of each name is reflected in the options.** -/
theorem reflects_of_first {tag : String} {before after : List Attribute} {a : Attribute}
    {o : MatchOptions} (h : readOptions ⟨tag, before ++ a :: after⟩ = .ok o)
    (hfirst : ∀ b ∈ before, b.name ≠ a.name) : Reflects o a := by
  obtain ⟨hknown, hmethod, hflags, -⟩ := readOptions_eq_ok_iff.mp h
  have hfound : LeafElement.attribute? ⟨tag, before ++ a :: after⟩ a.name = some a.value :=
    LeafElement.attribute?_of_first hfirst
  rcases (mem_attributeNames_iff o).mp (hknown a (by simp)) with hname | ⟨set, hset⟩
  · rw [readMethod, ← hname, hfound] at hmethod
    exact .inl ⟨hname, mapError_eq_ok_iff.mp hmethod⟩
  · have hflag := hflags _ hset
    rw [flag_eq_ok_iff, hfound] at hflag
    exact .inr ⟨set, hset, hflag⟩

/-- An attribute behind one of its name changes nothing in the options, whatever its value. -/
theorem readOptions_repeated {tag : String} {before after : List Attribute} {repeated : Attribute}
    (h : ∃ b ∈ before, b.name = repeated.name) :
    readOptions ⟨tag, before ++ repeated :: after⟩ = readOptions ⟨tag, before ++ after⟩ := by
  unfold readOptions
  simp only [LeafElement.only_repeated h, LeafElement.attribute?_repeated h,
    LeafElement.flag_repeated h]

/-- **Reading an element is the same without an attribute that repeats a name.** -/
theorem readElement_repeated {tag : String} {before after : List Attribute} {repeated : Attribute}
    (h : ∃ b ∈ before, b.name = repeated.name) :
    readElement ⟨tag, before ++ repeated :: after⟩ = readElement ⟨tag, before ++ after⟩ := by
  unfold readElement
  rw [readOptions_repeated h]

/-- The matcher that is read has the options of the attributes. -/
theorem exists_readOptions_of_run {e : LeafElement} {m : TextMatcher} {s rest : TokenSource}
    (h : (readElement e).run s = (.ok m, rest)) :
    ∃ o pattern, readOptions e = .ok o ∧ m.options = { o with pattern } := by
  unfold readElement at h
  simp only [Consumer.run_bind_eq_ok_iff, Consumer.run_ofExcept_eq_ok_iff,
    mapError_eq_ok_iff] at h
  obtain ⟨o, _, ⟨hoptions, -⟩, pattern, _, -, hm, -⟩ := h
  exact ⟨o, pattern, hoptions, MatchOptions.compile_eq_ok_iff.mp hm⟩

/-- **Of an accepted element the first attribute of each name is reflected in the matcher**, and so
    has one of the six names and a value that is one. An attribute that repeats a name is passed
    over: from any source the same is read without it. -/
theorem readElement_reflects {e : LeafElement} {m : TextMatcher} {s rest : TokenSource}
    (h : (readElement e).run s = (.ok m, rest)) {before after : List Attribute} {a : Attribute}
    (hsplit : e.attributes = before ++ a :: after) :
    a.name ∈ attributeNames ∧
      ((∀ b ∈ before, b.name ≠ a.name) → Reflects m.options a) ∧
      ((∃ b ∈ before, b.name = a.name) →
        readElement e = readElement ⟨e.tag, before ++ after⟩) := by
  obtain ⟨tag, attributes⟩ := e
  obtain rfl : attributes = before ++ a :: after := hsplit
  obtain ⟨o, pattern, hoptions, hm⟩ := exists_readOptions_of_run h
  refine ⟨(readOptions_eq_ok_iff.mp hoptions).1 a (by simp), fun hfirst => ?_,
    readElement_repeated⟩
  -- The pattern is in the body, so no attribute says anything of it.
  have hreflects : Reflects o a := reflects_of_first hoptions hfirst
  rw [hm]
  exact hreflects

/-- A method in capitals is reflected, and a second `trim` behind the first one passed over. -/
theorem readElement_reflects_capitals :
    let e : LeafElement := ⟨"condition", [⟨"method", "WILDCARD"⟩, ⟨"trim", "true"⟩,
      ⟨"trim", "maybe"⟩]⟩
    let m : TextMatcher := ⟨{ method := .wildcard, trim := true }, none, rfl⟩
    (readElement e).run (.ofTokens [.closing]) = (.ok m, .ofTokens [.closing]) ∧
      Reflects m.options ⟨"method", "WILDCARD"⟩ ∧
      readElement e =
        readElement ⟨"condition", [⟨"method", "WILDCARD"⟩, ⟨"trim", "true"⟩]⟩ := by
  intro e m
  have hread : (readElement e).run (.ofTokens [.closing]) = (.ok m, .ofTokens [.closing]) := rfl
  have hfirst : e.attributes =
      [] ++ ⟨"method", "WILDCARD"⟩ :: [⟨"trim", "true"⟩, ⟨"trim", "maybe"⟩] := rfl
  have hlast : e.attributes =
      [⟨"method", "WILDCARD"⟩, ⟨"trim", "true"⟩] ++ ⟨"trim", "maybe"⟩ :: [] := rfl
  obtain ⟨-, hmethod, -⟩ := readElement_reflects hread hfirst
  obtain ⟨-, -, htrim⟩ := readElement_reflects hread hlast
  exact ⟨hread, hmethod (by simp), htrim (by simp)⟩

/-- Behind the first attributes of their names stand a value that is neither `true` nor `false`, a
    value other than that of the option, and the name of no method: the element is accepted, and
    none of them is reflected. -/
theorem readElement_unreflected :
    let ignored : List Attribute := [⟨"trim", "maybe"⟩, ⟨"trim", "false"⟩, ⟨"method", "glob"⟩]
    let e : LeafElement := ⟨"condition", [⟨"trim", "true"⟩, ⟨"method", "csv"⟩] ++ ignored⟩
    ∃ m, (readElement e).run (.ofTokens [.closing]) = (.ok m, .ofTokens [.closing]) ∧
      ∀ a ∈ ignored, a ∈ e.attributes ∧ ¬Reflects m.options a := by
  intro ignored e
  refine ⟨⟨{ method := .csv, trim := true }, none, rfl⟩, rfl, fun a ha => ?_⟩
  refine ⟨List.mem_append_right _ ha, ?_⟩
  simp only [ignored, List.mem_cons, List.not_mem_nil, or_false] at ha
  obtain rfl | rfl | rfl := ha
  · simp [Reflects, methodAttribute, flagAttributes, flagValue]
  · simp [Reflects, methodAttribute, flagAttributes, flagValue]
  · have hglob : MatchMethod.ofName "glob" = .error (.unknownMethod "glob") := rfl
    simp [Reflects, flagAttributes, flagValue, hglob]

end TextMatcher

end Verdict
