import Verdict.Condition.Writing
import Verdict.Matcher.Leaf
import Verdict.Proofs.Sink

/-!
# The element of a text matcher is read back

* `writtenAttributes`: the attributes of the options that differ from the defaults;
* `leafTokens_matcher`: the tokens that a text matcher is written as;
* `readOptions_writtenAttributes`: the attributes say the options again;
* `compile_options`: compiling the options of a matcher makes this matcher.

The options and their names stand in one list (`flagAttributes`), and the lemmas are about every
such list.
-/

namespace Verdict

/-! ## 1. What is written -/

/-- A draft with further attributes. -/
def LeafDraft.addAttributes (draft : LeafDraft) (attributes : List Attribute) : LeafDraft :=
  { draft with attributes := draft.attributes ++ attributes }

namespace LeafDraft

theorem addAttributes_nil (draft : LeafDraft) : draft.addAttributes [] = draft := by
  unfold addAttributes
  congr
  exact List.append_nil _

theorem addAttributes_cons (draft : LeafDraft) (name value : String) (attributes : List Attribute) :
    draft.addAttributes (⟨name, value⟩ :: attributes) =
      (draft.addAttribute name value).addAttributes attributes := by
  unfold addAttributes addAttribute
  congr 1
  simp

end LeafDraft

namespace TextMatcher

/-- The attributes of the options in a list that are set. -/
def setAttributes (flags : List (String × Bool)) : List Attribute :=
  (flags.filter (·.2)).map fun flag => ⟨flag.1, "true"⟩

/-- The attribute of a method, if it is not the default. -/
def methodAttributes (method : MatchMethod) : List Attribute :=
  if method ≠ .basic then [⟨methodAttribute, method.name⟩] else []

/-- The attributes of the options that differ from the defaults. -/
def writtenAttributes (o : MatchOptions) : List Attribute :=
  methodAttributes o.method ++ setAttributes (flagAttributes o)

theorem setAttributes_cons (name : String) (set : Bool) (flags : List (String × Bool)) :
    setAttributes ((name, set) :: flags) =
      if set then ⟨name, "true"⟩ :: setAttributes flags else setAttributes flags := by
  cases set <;> rfl

/-- Writing yes-or-no options adds the attributes of those that are set. -/
theorem result_forM_flags (flags : List (String × Bool)) (draft : LeafDraft) :
    (flags.forM fun (name, set) => if set then modify (·.addAttribute name "true") else pure () :
      Writing LeafDraft LeafError Unit).result draft =
      (.ok (), draft.addAttributes (setAttributes flags)) := by
  induction flags generalizing draft with
  | nil => exact congrArg (Prod.mk _) draft.addAttributes_nil.symm
  | cons flag flags ih =>
    obtain ⟨name, set⟩ := flag
    rw [Writing.result_forM_cons, setAttributes_cons]
    cases set with
    | false => exact (Writing.result_bind_of_ok (Writing.result_pure () draft) _).trans (ih draft)
    | true =>
      rw [if_pos rfl, LeafDraft.addAttributes_cons]
      exact (Writing.result_bind_of_ok (Writing.result_modify _ draft) _).trans (ih _)

theorem result_methodAttribute (method : MatchMethod) (draft : LeafDraft) :
    (if method ≠ .basic then modify (·.addAttribute methodAttribute method.name) else pure () :
      Writing LeafDraft LeafError Unit).result draft =
      (.ok (), draft.addAttributes (methodAttributes method)) := by
  unfold methodAttributes
  split
  · rw [LeafDraft.addAttributes_cons, LeafDraft.addAttributes_nil]
    rfl
  · rw [LeafDraft.addAttributes_nil]
    rfl

/-- A draft whose body holds no token yet has no open element. -/
theorem parts_of_body_nil {draft : LeafDraft} (hbody : draft.body = []) :
    draft.parts = .ok (draft.attributes, []) := by
  obtain ⟨attributes, body, depth, hdepth⟩ := draft
  obtain rfl : body = [] := hbody
  obtain rfl : 0 = depth := Option.some.inj hdepth
  rfl

/-- The pattern is the only token of the body. -/
theorem exists_result_pattern {draft : LeafDraft} (hbody : draft.body = [])
    (pattern : Option String) :
    ∃ next : LeafDraft,
      (match pattern with
        | some pattern => (LeafDraft.put (.text pattern)).mapError .document
        | none => pure () : Writing LeafDraft LeafError Unit).result draft = (.ok (), next) ∧
      next.parts = .ok (draft.attributes, pattern.toList.map .text) := by
  cases pattern with
  | none => exact ⟨draft, rfl, parts_of_body_nil hbody⟩
  | some content =>
    obtain ⟨attributes, body, depth, hdepth⟩ := draft
    obtain rfl : body = [] := hbody
    obtain rfl : 0 = depth := Option.some.inj hdepth
    exact ⟨⟨attributes, [.text content], 0, rfl⟩, rfl, rfl⟩

theorem writeElement_eq (m : TextMatcher) :
    writeElement m = (do
      (if m.options.method ≠ .basic then
        modify (·.addAttribute methodAttribute m.options.method.name) else pure ())
      (flagAttributes m.options).forM fun (name, set) =>
        if set then modify (·.addAttribute name "true") else pure ()
      match m.options.pattern with
      | some pattern => (LeafDraft.put (.text pattern)).mapError .document
      | none => pure ()) := by
  unfold writeElement
  exact Writing.ite_bind _ _

/-- What a text matcher is written as. -/
theorem leafTokens_matcher (m : TextMatcher) :
    leafTokens m = .ok (.opening conditionTag (writtenAttributes m.options) ::
      m.options.pattern.toList.map .text ++ [.closing]) := by
  let named : LeafDraft := LeafDraft.addAttributes {} (methodAttributes m.options.method)
  let attributed : LeafDraft := named.addAttributes (setAttributes (flagAttributes m.options))
  have hbody : attributed.body = [] := rfl
  obtain ⟨draft, hpattern, hparts⟩ := exists_result_pattern hbody m.options.pattern
  have hwrite : (LeafCodec.write m).result {} = (.ok (), draft) := by
    show (writeElement m).result {} = _
    rw [writeElement_eq, Writing.result_bind_of_ok (result_methodAttribute m.options.method {}),
      Writing.result_bind_of_ok (result_forM_flags (flagAttributes m.options) named)]
    exact hpattern
  unfold leafTokens
  rw [hwrite]
  simp only [hparts]
  rfl

/-! ## 2. What is read back -/

theorem attribute?_append (tag name : String) (as bs : List Attribute) :
    LeafElement.attribute? ⟨tag, as ++ bs⟩ name =
      (LeafElement.attribute? ⟨tag, as⟩ name).or (LeafElement.attribute? ⟨tag, bs⟩ name) := by
  unfold LeafElement.attribute?
  rw [List.find?_append]
  cases as.find? fun a => a.name == name <;> rfl

theorem attribute?_cons (tag name : String) (a : Attribute) (as : List Attribute) :
    LeafElement.attribute? ⟨tag, a :: as⟩ name =
      if a.name = name then some a.value else LeafElement.attribute? ⟨tag, as⟩ name := by
  unfold LeafElement.attribute?
  rw [List.find?_cons]
  by_cases h : a.name = name
  · rw [if_pos h, beq_iff_eq.mpr h]
    rfl
  · rw [if_neg h, beq_eq_false_iff_ne.mpr h]

theorem attribute?_setAttributes (tag name : String) (flags : List (String × Bool)) :
    LeafElement.attribute? ⟨tag, setAttributes flags⟩ name =
      if (name, true) ∈ flags then some "true" else none := by
  induction flags with
  | nil => rfl
  | cons flag flags ih =>
    obtain ⟨other, set⟩ := flag
    rw [setAttributes_cons]
    cases set with
    | false =>
      rw [if_neg Bool.false_ne_true, ih]
      simp
    | true =>
      rw [if_pos rfl, attribute?_cons, ih]
      by_cases h : other = name
      · simp [h]
      · have h' : name ≠ other := fun heq => h heq.symm
        simp [h, h']

theorem attribute?_methodAttributes (tag name : String) (method : MatchMethod) :
    LeafElement.attribute? ⟨tag, methodAttributes method⟩ name =
      if name = methodAttribute ∧ method ≠ .basic then some method.name else none := by
  unfold methodAttributes
  by_cases h : method = .basic
  · simp only [h, ne_eq, not_true_eq_false, if_false, and_false]
    rfl
  · rw [if_pos h, attribute?_cons]
    simp only [ne_eq, h, not_false_eq_true, and_true]
    by_cases hname : name = methodAttribute
    · rw [if_pos hname.symm, if_pos hname]
    · rw [if_neg fun heq => hname heq.symm, if_neg hname]
      rfl

/-- Only known attributes are written. -/
theorem only_writtenAttributes (tag : String) (o : MatchOptions) :
    LeafElement.only ⟨tag, writtenAttributes o⟩ attributeNames = .ok () := by
  have hnames : ∀ a ∈ writtenAttributes o, a.name ∈ attributeNames := by
    intro a ha
    rcases List.mem_append.mp ha with ha | ha
    · unfold methodAttributes at ha
      split at ha
      · obtain rfl := List.mem_singleton.mp ha
        exact List.mem_cons_self
      · cases ha
    · obtain ⟨flag, hflag, rfl⟩ := List.mem_map.mp ha
      have hmem := List.mem_map_of_mem (f := Prod.fst) (List.mem_filter.mp hflag).1
      exact List.mem_cons_of_mem _ hmem
  have hnone : (writtenAttributes o).find? (fun a => !attributeNames.contains a.name) = none := by
    rw [List.find?_eq_none]
    intro a ha
    simp [hnames a ha]
  unfold LeafElement.only
  rw [hnone]

/-- A yes-or-no option is read as it was written. -/
theorem flag_writtenAttributes (tag : String) (o : MatchOptions) {name : String} {set : Bool}
    (hname : name ≠ methodAttribute) (hset : (name, true) ∈ flagAttributes o ↔ set = true) :
    LeafElement.flag ⟨tag, writtenAttributes o⟩ name false = .ok set := by
  have hattribute : LeafElement.attribute? ⟨tag, writtenAttributes o⟩ name =
      if set = true then some "true" else none := by
    rw [writtenAttributes, attribute?_append, attribute?_methodAttributes,
      if_neg fun h => hname h.1, Option.none_or, attribute?_setAttributes]
    simp only [hset]
  unfold LeafElement.flag
  rw [hattribute]
  cases set <;> rfl

/-- The method is read as it was written. -/
theorem attribute?_writtenAttributes_method (tag : String) (o : MatchOptions) :
    LeafElement.attribute? ⟨tag, writtenAttributes o⟩ methodAttribute =
      if o.method ≠ .basic then some o.method.name else none := by
  have hflags : (methodAttribute, true) ∉ flagAttributes o := by
    simp [methodAttribute, flagAttributes]
  rw [writtenAttributes, attribute?_append, attribute?_methodAttributes, attribute?_setAttributes,
    if_neg hflags, Option.or_none]
  simp only [true_and]

/-- **The attributes of a text matcher say its options.** -/
theorem readOptions_writtenAttributes (tag : String) (o : MatchOptions) :
    readOptions ⟨tag, writtenAttributes o⟩ = .ok { o with pattern := none } := by
  have hcase : LeafElement.flag ⟨tag, writtenAttributes o⟩ "ignoreCase" false =
      .ok o.ignoreCase := flag_writtenAttributes tag o (by decide) (by simp [flagAttributes])
  have hdiacritic : LeafElement.flag ⟨tag, writtenAttributes o⟩ "ignoreDiacritic" false =
      .ok o.ignoreDiacritic := flag_writtenAttributes tag o (by decide) (by simp [flagAttributes])
  have hanywhere : LeafElement.flag ⟨tag, writtenAttributes o⟩ "partial" false =
      .ok o.anywhere := flag_writtenAttributes tag o (by decide) (by simp [flagAttributes])
  have htrim : LeafElement.flag ⟨tag, writtenAttributes o⟩ "trim" false =
      .ok o.trim := flag_writtenAttributes tag o (by decide) (by simp [flagAttributes])
  have hempty : LeafElement.flag ⟨tag, writtenAttributes o⟩ "matchEmpty" false =
      .ok o.matchEmpty := flag_writtenAttributes tag o (by decide) (by simp [flagAttributes])
  unfold readOptions
  rw [only_writtenAttributes, attribute?_writtenAttributes_method]
  simp only [hcase, hdiacritic, hanywhere, htrim, hempty]
  by_cases h : o.method = .basic
  · simp only [h, ne_eq, not_true_eq_false, if_false]
    rfl
  · rw [if_pos h]
    simp only [MatchMethod.ofName_name]
    rfl

/-! ## 3. Compiling again -/

/-- Compiling the options of a matcher makes this matcher. -/
theorem compile_options (m : TextMatcher) : m.options.compile = .ok m := by
  unfold MatchOptions.compile
  split
  · exact congrArg Except.ok (ext rfl)
  · rename_i h
    rw [m.compiled] at h
    cases h

end TextMatcher

end Verdict
