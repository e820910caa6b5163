import Verdict.Condition.Writing
import Verdict.Proofs.Sink

/-!
# What leaves make of their elements

A leaf makes its element by calls on a draft: it adds an attribute, or it puts a token into the
body. A call that is refused leaves the draft as it was, and the leaf may go on.

* `leafResult`, `leafDraft`, `Writable`: how the writing of a leaf ends, the draft that it leaves,
  and the leaves that have tokens;
* **`leafTokens_eq_ok_iff`**, `leafTokens_eq_unbalanced`: these are the tokens, and a draft with an
  open element has none;
* `LeafFault`, **`leafTokens_eq_error_iff`**: why a leaf has no tokens;
* `LeafCall`, **`LeafCall.result_make`**: a call leaves the draft behind it, refused or not;
* `acceptedFrom`, `body_foldl_after`: the tokens of a sequence that are not refused make the body;
* `LeafScript`, **`leafTokens_script`**: a leaf that makes a sequence of calls and minds no refusal,
  and its tokens.
-/

namespace Verdict

/-! ## 1. Drafts -/

theorem LeafDraft.openAfter_empty : openAfter 0 [] = some 0 := rfl

/-- The draft that a leaf begins with. -/
def LeafDraft.empty : LeafDraft := { openAfter_body := openAfter_empty }

/-- The tokens of a draft, between the ends of its element. -/
def LeafDraft.tokens (draft : LeafDraft) (tag : String) : List Token :=
  .opening tag draft.attributes :: draft.body ++ [.closing]

section Draft

variable {P : Type} [LeafCodec P]

/-- How the writing of a leaf ends, and the draft that it leaves. -/
def leafResult (p : P) : Except LeafError Unit × LeafDraft := (LeafCodec.write p).result .empty

/-- The draft that a leaf leaves behind when it is written. -/
def leafDraft (p : P) : LeafDraft := (leafResult p).2

/-- The leaf comes to the end of its writing and leaves no element of its body open. -/
structure Writable (p : P) : Prop where
  ends : (leafResult p).1 = .ok ()
  closed : (leafDraft p).depth = 0

theorem leafTokens_eq (p : P) : leafTokens p = match leafResult p with
    | (.error e, _) => .error (.leaf (LeafCodec.tag p) e)
    | (.ok (), draft) =>
      if draft.depth = 0 then .ok (draft.tokens (LeafCodec.tag p))
      else .error (.document .unbalanced) := by
  have hresult : (LeafCodec.write p).result {} = leafResult p := rfl
  rw [leafTokens, hresult]
  rcases leafResult p with ⟨e | _, draft⟩
  · rfl
  · by_cases hdepth : draft.depth = 0
    · simp [LeafDraft.parts, hdepth, LeafDraft.tokens]
    · simp [LeafDraft.parts, hdepth]

/-- **A leaf has tokens if it comes to its end and leaves nothing open**; they are those of its
    draft. -/
theorem leafTokens_eq_ok_iff {p : P} {tokens : List Token} :
    leafTokens p = .ok tokens ↔
      Writable p ∧ tokens = (leafDraft p).tokens (LeafCodec.tag p) := by
  have hwritable : Writable p ↔ (leafResult p).1 = .ok () ∧ (leafDraft p).depth = 0 :=
    ⟨fun h => ⟨h.ends, h.closed⟩, fun h => ⟨h.1, h.2⟩⟩
  rw [hwritable, leafTokens_eq, leafDraft]
  rcases leafResult p with ⟨e | _, draft⟩
  · simp
  · by_cases hdepth : draft.depth = 0
    · simp [hdepth, eq_comm]
    · simp [hdepth]

/-- A leaf that leaves an element of its body open has no tokens. -/
theorem leafTokens_eq_unbalanced {p : P} (hends : (leafResult p).1 = .ok ())
    (hopen : (leafDraft p).depth ≠ 0) : leafTokens p = .error (.document .unbalanced) := by
  rw [leafDraft] at hopen
  rw [leafTokens_eq]
  rcases hresult : leafResult p with ⟨e | _, draft⟩ <;> rw [hresult] at hends hopen
  · cases hends
  · exact if_neg hopen

/-- A leaf that fails has no tokens either. -/
theorem leafTokens_eq_leaf {p : P} {e : LeafError} (fails : (leafResult p).1 = .error e) :
    leafTokens p = .error (.leaf (LeafCodec.tag p) e) := by
  rw [leafTokens_eq]
  rcases hresult : leafResult p with ⟨e' | _, draft⟩ <;> rw [hresult] at fails
  · cases fails
    rfl
  · cases fails

/-- Why a leaf has no tokens: it fails, or it comes to its end and leaves an element of its body
    open. -/
inductive LeafFault (p : P) : WriteError → Prop
  | failing {e : LeafError} (fails : (leafResult p).1 = .error e) :
      LeafFault p (.leaf (LeafCodec.tag p) e)
  | dangling (ends : (leafResult p).1 = .ok ()) (opens : (leafDraft p).depth ≠ 0) :
      LeafFault p (.document .unbalanced)

/-- **The leaves without tokens are those with a fault.** -/
theorem leafTokens_eq_error_iff {p : P} {error : WriteError} :
    leafTokens p = .error error ↔ LeafFault p error := by
  constructor
  · intro h
    cases hends : (leafResult p).1 with
    | error e =>
      cases (leafTokens_eq_leaf hends).symm.trans h
      exact .failing hends
    | ok _ =>
      by_cases hdepth : (leafDraft p).depth = 0
      · cases (leafTokens_eq_ok_iff.mpr ⟨⟨hends, hdepth⟩, rfl⟩).symm.trans h
      · cases (leafTokens_eq_unbalanced hends hdepth).symm.trans h
        exact .dangling hends hdepth
  · intro h
    cases h with
    | failing fails => exact leafTokens_eq_leaf fails
    | dangling ends opens => exact leafTokens_eq_unbalanced ends opens

end Draft

/-! ## 2. Calls -/

/-- What a leaf can ask of its draft. -/
inductive LeafCall where
  | add (name value : String)
  | put (token : Token)

namespace LeafCall

/-- The attribute that a call adds. -/
def attribute? : LeafCall → Option Attribute
  | add name value => some ⟨name, value⟩
  | put _ => none

/-- The token that a call puts into the body, unless it is refused. -/
def token? : LeafCall → Option Token
  | add _ _ => none
  | put token => some token

/-- Makes a call. -/
def make : LeafCall → Writing LeafDraft DocumentError Unit
  | add name value => modify (·.addAttribute name value)
  | put token => LeafDraft.put token

/-- The draft behind a call. -/
def after (draft : LeafDraft) : LeafCall → LeafDraft
  | add name value => draft.addAttribute name value
  | put token => (draft.put? token).getD draft

end LeafCall

namespace LeafDraft

/-- Only a close that has nothing to end is refused. -/
theorem put?_eq_none_iff {draft : LeafDraft} {token : Token} :
    draft.put? token = none ↔ openAfter draft.depth [token] = none := by
  unfold put?
  split <;> simp [*]

theorem put?_eq_some {draft next : LeafDraft} {token : Token} (h : draft.put? token = some next) :
    next.attributes = draft.attributes ∧ next.body = draft.body ++ [token] ∧
      openAfter draft.depth [token] = some next.depth := by
  unfold put? at h
  split at h
  · cases h
  · rename_i depth hdepth
    cases h
    exact ⟨rfl, rfl, hdepth⟩

/-- A refused token leaves the draft as it was. -/
theorem result_put (draft : LeafDraft) (token : Token) :
    (put token).result draft = match draft.put? token with
      | some next => (.ok (), next)
      | none => (.error .unbalanced, draft) := by
  have hget : (get : Writing LeafDraft DocumentError LeafDraft).result draft = (.ok draft, draft) :=
    rfl
  unfold put
  rw [Writing.result_bind_of_ok hget]
  cases draft.put? token <;> rfl

end LeafDraft

/-- **A call leaves the draft behind it, whether it answers or is refused.** -/
theorem LeafCall.result_make (call : LeafCall) (draft : LeafDraft) :
    (call.make.result draft).2 = call.after draft := by
  cases call with
  | add name value => rfl
  | put token =>
    show ((LeafDraft.put token).result draft).2 = (draft.put? token).getD draft
    rw [LeafDraft.result_put]
    cases draft.put? token <;> rfl

/-! ## 3. Sequences of calls -/

/-- The tokens that are not refused one after another, when `level` elements of the body are open.
    -/
def acceptedFrom (level : Nat) : List Token → List Token
  | [] => []
  | token :: rest =>
    match openAfter level [token] with
    | none => acceptedFrom level rest
    | some next => token :: acceptedFrom next rest

/-- Calls add their attributes in order. -/
theorem attributes_foldl_after (calls : List LeafCall) (draft : LeafDraft) :
    (calls.foldl LeafCall.after draft).attributes =
      draft.attributes ++ calls.filterMap LeafCall.attribute? := by
  induction calls generalizing draft with
  | nil => exact (List.append_nil _).symm
  | cons call calls ih =>
    rw [List.foldl_cons, ih]
    cases call with
    | add name value => simp [LeafCall.after, LeafDraft.addAttribute, LeafCall.attribute?]
    | put token =>
      have hkept : (LeafCall.after draft (.put token)).attributes = draft.attributes := by
        show ((draft.put? token).getD draft).attributes = _
        cases hput : draft.put? token with
        | none => rfl
        | some next => exact (LeafDraft.put?_eq_some hput).1
      rw [hkept, List.filterMap_cons_none rfl]

/-- Calls put those of their tokens into the body that are not refused. -/
theorem body_foldl_after (calls : List LeafCall) (draft : LeafDraft) :
    (calls.foldl LeafCall.after draft).body =
      draft.body ++ acceptedFrom draft.depth (calls.filterMap LeafCall.token?) := by
  induction calls generalizing draft with
  | nil => exact (List.append_nil _).symm
  | cons call calls ih =>
    rw [List.foldl_cons, ih]
    cases call with
    | add name value => rfl
    | put token =>
      have htokens : (LeafCall.put token :: calls).filterMap LeafCall.token? =
          token :: calls.filterMap LeafCall.token? := rfl
      rw [htokens, acceptedFrom]
      show ((draft.put? token).getD draft).body ++
        acceptedFrom ((draft.put? token).getD draft).depth _ = _
      cases hput : draft.put? token with
      | none => rw [LeafDraft.put?_eq_none_iff.mp hput, Option.getD_none]
      | some next =>
        obtain ⟨-, hbody, hdepth⟩ := LeafDraft.put?_eq_some hput
        rw [hdepth, Option.getD_some, hbody, List.append_assoc]
        rfl

/-- A leaf that makes a sequence of calls and minds no refusal. -/
structure LeafScript where
  tag : String
  calls : List LeafCall

instance : LeafCodec LeafScript where
  tag := LeafScript.tag
  read _ := Consumer.fail (.other "a script is not read")
  write script := script.calls.forM fun call =>
    tryCatch (call.make.mapError .document) fun _ => pure ()

/-- The draft of a script is that of its calls, one after another. -/
theorem leafResult_script (script : LeafScript) :
    leafResult script = (.ok (), script.calls.foldl LeafCall.after .empty) := by
  have hcall : ∀ (call : LeafCall) (draft : LeafDraft),
      (tryCatch (call.make.mapError .document) fun _ => pure () :
        Writing LeafDraft LeafError Unit).result draft = (.ok (), call.after draft) := by
    intro call draft
    rw [Writing.result_tryCatch, Writing.result_mapError, LeafCall.result_make]
    cases (call.make.result draft).1 <;> rfl
  show (script.calls.forM _ : Writing LeafDraft LeafError Unit).result .empty = _
  generalize LeafDraft.empty = draft
  induction script.calls generalizing draft with
  | nil => rfl
  | cons call calls ih =>
    rw [Writing.result_forM_cons, Writing.result_bind_of_ok (hcall call draft)]
    exact ih _

/-- **A script has tokens if those of its tokens that are not refused close what they open**; its
    body is made of these. -/
theorem leafTokens_script (script : LeafScript) :
    let body := acceptedFrom 0 (script.calls.filterMap LeafCall.token?)
    leafTokens script =
      if openAfter 0 body = some 0 then
        .ok (.opening script.tag (script.calls.filterMap LeafCall.attribute?) :: body ++ [.closing])
      else .error (.document .unbalanced) := by
  intro body
  have hdraft : leafDraft script = script.calls.foldl LeafCall.after .empty :=
    congrArg Prod.snd (leafResult_script script)
  have hends : (leafResult script).1 = .ok () := congrArg Prod.fst (leafResult_script script)
  have hbody : (leafDraft script).body = body := by
    rw [hdraft, body_foldl_after]
    rfl
  have hattributes : (leafDraft script).attributes =
      script.calls.filterMap LeafCall.attribute? := by
    rw [hdraft, attributes_foldl_after]
    rfl
  have hlevel : openAfter 0 body = some (leafDraft script).depth :=
    hbody ▸ (leafDraft script).openAfter_body
  by_cases hclosed : (leafDraft script).depth = 0
  · rw [if_pos (hclosed ▸ hlevel)]
    refine leafTokens_eq_ok_iff.mpr ⟨⟨hends, hclosed⟩, ?_⟩
    rw [LeafDraft.tokens, hbody, hattributes]
    rfl
  · rw [if_neg fun h => hclosed (Option.some.inj (hlevel.symm.trans h))]
    exact leafTokens_eq_unbalanced hends hclosed

end Verdict
