import Verdict.Proofs.Document.Placement

/-!
# Replaying tokens on one layout

A layout that refuses a token is as it was, and the next token is written on it.

* `Layout.replay`: every token with its answer, and the layout behind all of them;
* `accepted`: the tokens that were taken;
* `openings`, `closings`: how many elements a run of tokens opens and closes;
* `replay_append`, `putAll?_accepted`, `replay_of_putAll?`: a replay in two parts, and of the
  accepted tokens alone;
* `exists_elements_of_within`: tokens that all have their place and leave nothing open are elements
  in a row;
* `Layout.putAll?_flatten`, `exists_parts_of_putAll?`: elements in a row are laid out as the texts
  of each, in a row;
* **`replay_accepted`**: a token is refused exactly if it is no opening tag and nothing is open,
  the refused tokens leave no trace, and what is finished is a row of elements.
-/

namespace Verdict

/-! ## 1. Replays -/

/-- Whether a token opens an element. -/
def Token.isOpening : Token → Bool
  | .opening _ _ => true
  | _ => false

/-- The number of elements that are opened. -/
def openings (tokens : List Token) : Nat := tokens.countP Token.isOpening

/-- The number of elements that are closed. -/
def closings (tokens : List Token) : Nat := tokens.count .closing

/-- The tokens that were answered without an error. -/
def accepted (answers : List (Token × Except DocumentError Unit)) : List Token :=
  (answers.filter fun entry => entry.2.isOk).map (·.1)

namespace Layout

/-- Writes tokens one by one, whatever the answers: every token with its answer, and the layout
    behind all of them. -/
def replay (l : Layout) : List Token → List (Token × Except DocumentError Unit) × Layout
  | [] => ([], l)
  | token :: rest =>
    let (answer, next) := (put token).result l
    let (answers, final) := next.replay rest
    ((token, answer) :: answers, final)

variable {l l' : Layout} {token : Token} {tokens : List Token}

theorem replay_cons (l : Layout) (token : Token) (rest : List Token) :
    l.replay (token :: rest) =
      ((token, ((put token).result l).1) :: (((put token).result l).2.replay rest).1,
        (((put token).result l).2.replay rest).2) := rfl

theorem replay_append (l : Layout) (a b : List Token) :
    l.replay (a ++ b) = ((l.replay a).1 ++ ((l.replay a).2.replay b).1,
      ((l.replay a).2.replay b).2) := by
  induction a generalizing l with
  | nil => rfl
  | cons token a ih => rw [List.cons_append, replay_cons, replay_cons, ih, List.cons_append]

theorem length_replay (l : Layout) (tokens : List Token) :
    (l.replay tokens).1.length = tokens.length := by
  induction tokens generalizing l with
  | nil => rfl
  | cons token rest ih => rw [replay_cons, List.length_cons, ih, List.length_cons]

/-- A token that has no place is refused, and the layout is as it was. -/
theorem result_put_refused (h : l.put? token = none) :
    (put token).result l = (.error .unbalanced, l) := by
  have hget : (get : Writing Layout DocumentError Layout).result l = (.ok l, l) := rfl
  unfold put
  rw [Writing.result_bind_of_ok hget, h]
  rfl

/-- Only texts and closes have no place, and only where nothing is open. -/
theorem put?_eq_none_iff_bodies :
    l.put? token = none ↔ token.isOpening = false ∧ l.bodies = [] := by
  obtain ⟨text, bodies⟩ := l
  cases token with
  | opening name attributes => simp [put?, Token.isOpening]
  | text content => cases bodies <;> simp [put?, Token.isOpening]
  | closing => rcases bodies with _ | ⟨_ | _, outer⟩ <;> simp [put?, Token.isOpening]

theorem replay_cons_of_put? (h : l.put? token = some l') (rest : List Token) :
    l.replay (token :: rest) = ((token, .ok ()) :: (l'.replay rest).1, (l'.replay rest).2) := by
  rw [replay_cons, result_put h]

theorem replay_cons_refused (h : l.put? token = none) (rest : List Token) :
    l.replay (token :: rest) =
      ((token, .error .unbalanced) :: (l.replay rest).1, (l.replay rest).2) := by
  rw [replay_cons, result_put_refused h]

/-- **The refused tokens leave no trace**: the accepted ones alone lead to the same layout. -/
theorem putAll?_accepted (l : Layout) (tokens : List Token) :
    l.putAll? (accepted (l.replay tokens).1) = some (l.replay tokens).2 := by
  induction tokens generalizing l with
  | nil => rfl
  | cons token rest ih =>
    cases h : l.put? token with
    | none =>
      rw [replay_cons_refused h]
      exact ih l
    | some l' =>
      rw [replay_cons_of_put? h]
      show l.putAll? (token :: accepted (l'.replay rest).1) = _
      rw [putAll?, h]
      exact ih l'

/-- Tokens that all have their place are all accepted. -/
theorem replay_of_putAll? (h : l.putAll? tokens = some l') :
    l.replay tokens = (tokens.map fun token => (token, .ok ()), l') := by
  induction tokens generalizing l with
  | nil =>
    obtain rfl := Option.some.inj h
    rfl
  | cons token rest ih =>
    obtain ⟨l₁, hput, hrest⟩ := Option.bind_eq_some_iff.mp h
    rw [replay_cons_of_put? hput, ih hrest]
    rfl

end Layout

/-! ## 2. What is open -/

theorem openings_cons (token : Token) (rest : List Token) :
    openings (token :: rest) = openings rest + if token.isOpening then 1 else 0 :=
  List.countP_cons

theorem closings_cons (token : Token) (rest : List Token) :
    closings (token :: rest) = closings rest + if token == .closing then 1 else 0 :=
  List.count_cons

/-- The elements that are open are those opened and not closed. -/
theorem openings_eq_of_openAfter {level final : Nat} {tokens : List Token}
    (h : openAfter level tokens = some final) :
    level + openings tokens = final + closings tokens := by
  induction tokens generalizing level with
  | nil =>
    obtain rfl := Option.some.inj h
    rfl
  | cons token rest ih =>
    rw [openings_cons, closings_cons]
    cases token with
    | opening name attributes =>
      have hrest : level + 1 + openings rest = final + closings rest := ih h
      simp only [Token.isOpening, beq_iff_eq, reduceCtorEq, if_true, if_false]
      omega
    | text content =>
      have hrest : level + openings rest = final + closings rest := ih h
      simpa [Token.isOpening] using hrest
    | closing =>
      cases level with
      | zero => cases h
      | succ outer =>
        have hrest : outer + openings rest = final + closings rest := ih h
        simp only [Token.isOpening, beq_self_eq_true, Bool.false_eq_true, if_true, if_false]
        omega

/-- Nothing is open in a layout exactly if the tokens it was made of close what they open. -/
theorem Layout.bodies_eq_nil_iff {l : Layout} {tokens : List Token}
    (h : Layout.putAll? {} tokens = some l) :
    l.bodies = [] ↔ openings tokens = closings tokens := by
  have hwithin : within 0 tokens = some l.bodies.length := by
    have hlength := length_bodies_putAll? {} tokens
    rw [h] at hlength
    exact hlength.symm
  have hcount := openings_eq_of_openAfter (openAfter_of_within hwithin)
  rw [← List.length_eq_zero_iff]
  omega

/-! ## 3. Elements in a row -/

/-- Tokens that end an element begin with the rest of its body and its close. The induction is on
    the number of tokens, since behind an inner element the body goes on. -/
theorem exists_body_of_within {level final : Nat} {tokens : List Token}
    (h : within (level + 1) tokens = some final) (hle : final ≤ level) :
    ∃ levels body rest, tokens = body ++ .closing :: rest ∧ Balanced levels body ∧
      within level rest = some final := by
  induction hn : tokens.length using Nat.strongRecOn generalizing level tokens with
  | _ n ih =>
    cases tokens with
    | nil =>
      obtain rfl := Option.some.inj h
      omega
    | cons token tokens =>
      subst hn
      cases token with
      | text content =>
        have h : within (level + 1) tokens = some final := h
        obtain ⟨levels, body, rest, rfl, hbody, hrest⟩ := ih _ (Nat.lt_succ_self _) h hle rfl
        exact ⟨levels, _, rest, rfl, .text hbody, hrest⟩
      | closing => exact ⟨0, [], tokens, rfl, .nil, h⟩
      | opening name attributes =>
        have h : within (level + 2) tokens = some final := h
        obtain ⟨inner, body, behind, rfl, hinner, hbehind⟩ :=
          ih _ (Nat.lt_succ_self _) h (Nat.le_succ_of_le hle) rfl
        have hshorter : behind.length < (body ++ .closing :: behind).length + 1 := by
          simp only [List.length_append, List.length_cons]
          omega
        obtain ⟨levels, others, rest, rfl, hothers, hrest⟩ := ih _ hshorter hbehind hle rfl
        have hdeep : Balanced (max inner levels) body := hinner.mono (Nat.le_max_left _ _)
        have hwide : Balanced (max inner levels + 1) others := hothers.mono (by omega)
        exact ⟨max inner levels + 1, .opening name attributes :: body ++ .closing :: others, rest,
          by simp, .element hdeep hwide, hrest⟩

/-- **Tokens that all have their place and leave nothing open are elements in a row.** -/
theorem exists_elements_of_within {tokens : List Token} (h : within 0 tokens = some 0) :
    ∃ elements : List (List Token), tokens = elements.flatten ∧
      ∀ element ∈ elements, ∃ levels, IsElement levels element := by
  induction hn : tokens.length using Nat.strongRecOn generalizing tokens with
  | _ n ih =>
    subst hn
    cases tokens with
    | nil => exact ⟨[], rfl, by simp⟩
    | cons token tokens =>
      cases token with
      | text content => cases h
      | closing => cases h
      | opening name attributes =>
        have h : within 1 tokens = some 0 := h
        obtain ⟨levels, body, rest, rfl, hbody, hrest⟩ := exists_body_of_within h (Nat.le_refl 0)
        have hshorter : rest.length < (body ++ .closing :: rest).length + 1 := by
          simp only [List.length_append, List.length_cons]
          omega
        obtain ⟨elements, rfl, helements⟩ := ih _ hshorter hrest rfl
        refine ⟨(.opening name attributes :: body ++ [.closing]) :: elements, by simp, ?_⟩
        intro element helement
        rcases List.mem_cons.mp helement with rfl | helement
        · exact ⟨levels + 1, .mk hbody⟩
        · exact helements element helement

/-- A body leaves open what is open around it. -/
theorem within_of_balanced {levels : Nat} {body : List Token} (h : Balanced levels body)
    (level : Nat) : within (level + 1) body = some (level + 1) := by
  induction h generalizing level with
  | nil => rfl
  | text _ ih => exact ih level
  | element _ _ ihBody ih =>
    rw [List.cons_append, within, within_append, ihBody (level + 1), Option.bind_some, within]
    exact ih level

theorem within_of_isElement {levels : Nat} {element : List Token} (h : IsElement levels element)
    (level : Nat) : within level element = some level := by
  obtain ⟨hbody⟩ := h
  rw [List.cons_append, within, within_append, within_of_balanced hbody level, Option.bind_some]
  rfl

/-! ## 4. Texts in a row -/

namespace Layout

/-- A layout with a text in front of its own. -/
def behind (front : String) (l : Layout) : Layout := { l with text := front ++ l.text }

theorem put?_behind (front : String) (l : Layout) (token : Token) :
    (l.behind front).put? token = (l.put? token).map (behind front) := by
  obtain ⟨text, bodies⟩ := l
  cases token with
  | opening name attributes =>
    rcases bodies with _ | ⟨_ | _, outer⟩ <;>
      simp [put?, behind, beginBody, indentation, String.append_assoc]
  | text content =>
    rcases bodies with _ | ⟨_ | _, outer⟩ <;>
      simp [put?, behind, beginBody, indentation, String.append_assoc]
  | closing =>
    rcases bodies with _ | ⟨_ | _, outer⟩ <;>
      simp [put?, behind, indentation, String.append_assoc]

/-- What is written does not depend on the text in front. -/
theorem putAll?_behind (front : String) (l : Layout) (tokens : List Token) :
    (l.behind front).putAll? tokens = (l.putAll? tokens).map (behind front) := by
  induction tokens generalizing l with
  | nil => rfl
  | cons token rest ih =>
    rw [putAll?, putAll?, put?_behind]
    cases l.put? token with
    | none => rfl
    | some l' => exact ih l'

/-- An element that is laid out alone has its text, and nothing open behind it. -/
theorem exists_putAll?_of_isElement {levels : Nat} {element : List Token}
    (h : IsElement levels element) :
    ∃ text, Layout.putAll? {} element = some ⟨text, []⟩ ∧ ofTokens element = .ok text := by
  obtain ⟨⟨text, bodies⟩, hput, hlength⟩ :=
    exists_putAll?_of_within (l := {}) (within_of_isElement h 0)
  obtain rfl := List.eq_nil_of_length_eq_zero hlength
  refine ⟨text, hput, ?_⟩
  rw [ofTokens, result_forM_put hput]
  rfl

/-- **Elements in a row are laid out as the texts of each, in a row.** -/
theorem putAll?_flatten {parts : List (List Token × String)}
    (h : ∀ part ∈ parts, Layout.putAll? {} part.1 = some ⟨part.2, []⟩) (front : String) :
    Layout.putAll? ⟨front, []⟩ (parts.map (·.1)).flatten =
      some ⟨front ++ String.join (parts.map (·.2)), []⟩ := by
  induction parts generalizing front with
  | nil => simp [putAll?]
  | cons part parts ih =>
    have hfirst := h part List.mem_cons_self
    have hrest := ih fun other hother => h other (List.mem_cons_of_mem part hother)
    have hbehind : Layout.putAll? ⟨front, []⟩ part.1 = some ⟨front ++ part.2, []⟩ := by
      have hframe := putAll?_behind front {} part.1
      rw [hfirst] at hframe
      simpa [behind] using hframe
    rw [List.map_cons, List.flatten_cons, putAll?_append, hbehind, Option.bind_some, hrest]
    simp [String.append_assoc]

/-- Elements, each with its text. -/
theorem exists_parts_of_elements {elements : List (List Token)}
    (h : ∀ element ∈ elements, ∃ levels, IsElement levels element) :
    ∃ parts : List (List Token × String), parts.map (·.1) = elements ∧ ∀ part ∈ parts,
      Layout.putAll? {} part.1 = some ⟨part.2, []⟩ ∧ ofTokens part.1 = .ok part.2 := by
  induction elements with
  | nil => exact ⟨[], rfl, by simp⟩
  | cons element elements ih =>
    obtain ⟨levels, helement⟩ := h element List.mem_cons_self
    obtain ⟨text, htext⟩ := exists_putAll?_of_isElement helement
    obtain ⟨parts, rfl, hparts⟩ := ih fun other hother => h other (List.mem_cons_of_mem _ hother)
    refine ⟨(element, text) :: parts, rfl, fun part hpart => ?_⟩
    rcases List.mem_cons.mp hpart with rfl | hpart
    · exact htext
    · exact hparts part hpart

/-- What is finished is a row of elements, each with its text. -/
theorem exists_parts_of_putAll? {tokens : List Token} {text : String}
    (h : Layout.putAll? {} tokens = some ⟨text, []⟩) :
    ∃ parts : List (List Token × String), tokens = (parts.map (·.1)).flatten ∧
      text = String.join (parts.map (·.2)) ∧
      ∀ part ∈ parts, (∃ levels, IsElement levels part.1) ∧ ofTokens part.1 = .ok part.2 := by
  have hwithin : within 0 tokens = some 0 := by
    have hlength := length_bodies_putAll? {} tokens
    rw [h] at hlength
    exact hlength.symm
  obtain ⟨elements, rfl, helements⟩ := exists_elements_of_within hwithin
  obtain ⟨parts, rfl, hparts⟩ := exists_parts_of_elements helements
  have hflatten := putAll?_flatten (fun part hpart => (hparts part hpart).1) ""
  obtain ⟨htext, -⟩ := Layout.mk.inj (Option.some.inj (h.symm.trans hflatten))
  refine ⟨parts, rfl, by simpa using htext, fun part hpart => ⟨?_, (hparts part hpart).2⟩⟩
  exact helements part.1 (List.mem_map_of_mem hpart)

end Layout

/-! ## 5. The accepted tokens -/

namespace Layout

/-- The answer to a token is the one that the layout gives behind the tokens before it. -/
theorem getElem?_replay (l : Layout) (before : List Token) (token : Token) (behind : List Token) :
    (l.replay (before ++ token :: behind)).1[before.length]? =
      some (token, ((put token).result (l.replay before).2).1) := by
  rw [replay_append, List.getElem?_append_right (Nat.le_of_eq (length_replay l before)),
    length_replay, Nat.sub_self, replay_cons]
  rfl

/-- A token is refused exactly if it is no opening tag and the accepted tokens leave nothing
    open. -/
theorem put?_replay_eq_none_iff (before : List Token) (token : Token) :
    (Layout.replay {} before).2.put? token = none ↔
      token.isOpening = false ∧ openings (accepted (Layout.replay {} before).1) =
        closings (accepted (Layout.replay {} before).1) := by
  rw [put?_eq_none_iff_bodies, bodies_eq_nil_iff (putAll?_accepted {} before)]

theorem exists_finish_iff (l : Layout) : (∃ text, l.finish = .ok text) ↔ l.bodies = [] := by
  obtain ⟨text, bodies⟩ := l
  cases bodies <;> simp [finish]

end Layout

/-- **A layout follows the accepted tokens only.** Behind any tokens, one more is refused exactly if
    it is no opening tag and nothing is open, and then the layout is as it was. The accepted tokens
    alone are all accepted and lead to the same layout; it can be finished exactly if they close as
    much as they open; and then they are elements in a row, and the text is that of each in a row,
    as a new layout writes it. -/
theorem Layout.replay_accepted :
    (∀ before token behind,
      let taken := accepted (Layout.replay {} before).1
      (Layout.replay {} (before ++ token :: behind)).1[before.length]? =
          some (token, if token.isOpening = false ∧ openings taken = closings taken
            then .error .unbalanced else .ok ()) ∧
        (token.isOpening = false ∧ openings taken = closings taken →
          (Layout.replay {} (before ++ [token])).2 = (Layout.replay {} before).2)) ∧
    ∀ tokens,
      let taken := accepted (Layout.replay {} tokens).1
      let final := (Layout.replay {} tokens).2
      Layout.replay {} taken = (taken.map fun token => (token, .ok ()), final) ∧
        ((∃ text, final.finish = .ok text) ↔ openings taken = closings taken) ∧
        ∀ text, final.finish = .ok text → ∃ parts : List (List Token × String),
          taken = (parts.map (·.1)).flatten ∧ text = String.join (parts.map (·.2)) ∧
          ∀ part ∈ parts, (∃ levels, IsElement levels part.1) ∧ ofTokens part.1 = .ok part.2 := by
  refine ⟨fun before token behind => ?_, fun tokens => ?_⟩
  · intro taken
    have hrefused := put?_replay_eq_none_iff before token
    rw [getElem?_replay, replay_append]
    cases hput : (Layout.replay {} before).2.put? token with
    | none =>
      have hcounts := hrefused.mp hput
      rw [result_put_refused hput, if_pos hcounts, replay_cons_refused hput]
      exact ⟨rfl, fun _ => rfl⟩
    | some next =>
      have hplace : ¬(token.isOpening = false ∧ openings taken = closings taken) := by
        rw [← hrefused, hput]
        exact Option.some_ne_none next
      rw [result_put hput, if_neg hplace]
      exact ⟨rfl, fun hcounts => absurd hcounts hplace⟩
  · intro taken final
    have hput : Layout.putAll? {} taken = some final := putAll?_accepted {} tokens
    have hbodies := bodies_eq_nil_iff hput
    refine ⟨replay_of_putAll? hput, (exists_finish_iff final).trans hbodies, fun text htext => ?_⟩
    have hclosed := (exists_finish_iff final).mp ⟨text, htext⟩
    obtain ⟨found, bodies⟩ := final
    obtain rfl : bodies = [] := hclosed
    obtain rfl := Except.ok.inj htext
    exact exists_parts_of_putAll? hput

end Verdict
