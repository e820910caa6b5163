import Mathlib.Data.List.Forall2
import Mathlib.Logic.Relation
import Verdict.Condition.Leaves
import Verdict.Proofs.Condition.Writing
import Verdict.Proofs.Evaluation.Calls

/-!
# Whoever walks a condition meets its leaves in one order

* `Leaves.Round`: one round in the loop of the iterator; no round changes the leaves to come
  (`Round.leafLists_eq`), and rounds come to an end (`Round.nodeCounts_lt`);
* `Leaves.call`, `Leaves.after`: a call of the iterator with the iterator that it leaves behind, and
  the iterator after some calls;
* **`leafLists_after`**: after any number of calls the leaves to come are those of the trees on the
  stack, by recursion on the trees;
* `Strung`: elements in a row, with tags of composites around them;
* `EmitsInOrder`, **`emitsInOrder_output`**: writing puts out the elements of the leaves in order;
* **`leaves_inOrder`**: the iterator, the number of leaves, writing and evaluation, together.
-/

namespace Verdict

open Relation (ReflTransGen)
open Condition (leafLists nodeCounts)

variable {P : Type}

/-! ## 1. The iterator -/

namespace Leaves

/-- One round in the loop of the iterator: a composite at the top gives way to its children. -/
inductive Round : List (Condition P) → List (Condition P) → Prop
  | descend (junction : Junction) (children rest : List (Condition P)) :
      Round (.composite junction children :: rest) (children ++ rest)

namespace Round

variable {stack stack' : List (Condition P)}

/-- **A round leaves the leaves to come as they are.** -/
theorem leafLists_eq (h : Round stack stack') : leafLists stack' = leafLists stack := by
  cases h with
  | descend junction children rest => rw [Condition.leafLists_append, leafLists, Condition.leafList]

/-- **A round leaves fewer nodes to visit.** -/
theorem nodeCounts_lt (h : Round stack stack') : nodeCounts stack' < nodeCounts stack := by
  cases h with
  | descend junction children rest =>
    rw [nodeCounts_append, nodeCounts, Condition.nodeCount]
    omega

/-- Rounds do not go on for ever. -/
theorem not_forever (stackAt : Nat → List (Condition P)) :
    ¬∀ n, Round (stackAt n) (stackAt (n + 1)) := by
  intro h
  have hfewer : ∀ n, nodeCounts (stackAt n) + n ≤ nodeCounts (stackAt 0) := by
    intro n
    induction n with
    | zero => exact Nat.le_refl _
    | succ n ih =>
      have hround := (h n).nodeCounts_lt
      omega
  have hall := hfewer (nodeCounts (stackAt 0) + 1)
  omega

end Round

theorem leafLists_eq_of_rounds {stack stack' : List (Condition P)}
    (h : ReflTransGen Round stack stack') : leafLists stack' = leafLists stack := by
  induction h with
  | refl => rfl
  | tail _ hround ih => rw [hround.leafLists_eq, ih]

/-- One call: its answer, and the iterator that it leaves behind. A call that finds no leaf has
    worked off the stack. -/
def call (it : Leaves P) : Option P × Leaves P :=
  match it.next with
  | none => (none, ⟨[]⟩)
  | some (p, behind) => (some p, behind)

/-- The stack with which the loop of a call ends. -/
def lastStack (it : Leaves P) : List (Condition P) :=
  match it.call with
  | (none, behind) => behind.stack
  | (some p, behind) => .leaf p :: behind.stack

/-- The loop of a call goes round until a leaf is at the top, or nothing. -/
theorem rounds_pop (stack : List (Condition P)) :
    ReflTransGen Round stack (match pop stack with
      | none => []
      | some (p, rest) => .leaf p :: rest) := by
  fun_induction pop stack with
  | case1 => exact .refl
  | case2 p rest => exact .refl
  | case3 junction children rest ih => exact .head (.descend junction children rest) ih

theorem rounds_lastStack (it : Leaves P) : ReflTransGen Round it.stack it.lastStack := by
  have h := rounds_pop it.stack
  unfold lastStack call next
  cases hpop : pop it.stack with
  | none =>
    rw [hpop] at h
    exact h
  | some found =>
    rw [hpop] at h
    exact h

/-- The leaves to come are the answer of a call and those behind it. -/
theorem leafLists_call (it : Leaves P) :
    leafLists it.stack = it.call.1.toList ++ leafLists it.call.2.stack := by
  rw [← leafLists_eq_of_rounds it.rounds_lastStack, lastStack]
  rcases it.call with ⟨_ | p, behind⟩ <;> rfl

/-- A call without an answer leaves nothing to visit. -/
theorem stack_of_call_eq_none {it : Leaves P} (h : it.call.1 = none) : it.call.2.stack = [] := by
  unfold call at h ⊢
  cases hnext : it.next with
  | none => rfl
  | some found =>
    rw [hnext] at h
    cases h

/-- The iterator after some calls. -/
def after (it : Leaves P) : Nat → Leaves P
  | 0 => it
  | n + 1 => it.call.2.after n

theorem call_eq (it : Leaves P) : it.call.1 = (leafLists it.stack).head? ∧
    leafLists it.call.2.stack = (leafLists it.stack).tail := by
  have hleaves := it.leafLists_call
  cases hanswer : it.call.1 with
  | none =>
    have hbehind := stack_of_call_eq_none hanswer
    rw [hanswer, hbehind] at hleaves
    rw [hleaves, hbehind]
    exact ⟨rfl, rfl⟩
  | some p =>
    rw [hanswer] at hleaves
    rw [hleaves]
    exact ⟨rfl, rfl⟩

/-- **After some calls the leaves to come are the others, in order.** -/
theorem leafLists_after (it : Leaves P) (n : Nat) :
    leafLists (it.after n).stack = (leafLists it.stack).drop n := by
  induction n generalizing it with
  | zero => rfl
  | succ n ih => rw [after, ih, it.call_eq.2, List.drop_tail]

/-- The next call answers the leaf with this index; none when there are no more. -/
theorem call_after (it : Leaves P) (n : Nat) :
    (it.after n).call.1 = (leafLists it.stack)[n]? := by
  rw [(it.after n).call_eq.1, leafLists_after, List.head?_drop]

theorem toList_eq (it : Leaves P) : it.toList = leafLists it.stack := by
  fun_induction toList it with
  | case1 it hpop =>
    have hrounds := rounds_pop it.stack
    rw [hpop] at hrounds
    exact leafLists_eq_of_rounds hrounds
  | case2 it p rest hpop ih =>
    have hrounds := rounds_pop it.stack
    rw [hpop] at hrounds
    rw [ih]
    exact leafLists_eq_of_rounds hrounds

end Leaves

namespace Condition

/-! ## 2. Writing -/

section Writing

variable [LeafCodec P]

/-- The tags that composites are written with. -/
def IsCompositeTag (token : Token) : Prop :=
  token = .closing ∨ ∃ junction : Junction, token = .opening junction.tag []

/-- Elements in a row, with nothing but tags of composites before, between and behind them. -/
inductive Strung : List (List Token) → List Token → Prop
  | nil : Strung [] []
  | tag {token : Token} {elements : List (List Token)} {tokens : List Token}
      (htag : IsCompositeTag token) (hrest : Strung elements tokens) :
      Strung elements (token :: tokens)
  | element (element : List Token) {elements : List (List Token)} {tokens : List Token}
      (hrest : Strung elements tokens) : Strung (element :: elements) (element ++ tokens)

theorem Strung.append {as bs : List (List Token)} {s t : List Token} (ha : Strung as s)
    (hb : Strung bs t) : Strung (as ++ bs) (s ++ t) := by
  induction ha with
  | nil => exact hb
  | tag htag _ ih => exact .tag htag ih
  | element element _ ih =>
    rw [List.append_assoc]
    exact .element element ih

/-- The output has the elements of these leaves in order, with nothing but tags of composites
    around them: of all the leaves if it comes to its end, and else of those before the first one
    that has no element, whose error it ends with. -/
def EmitsInOrder (leaves : List P) (o : Output) : Prop :=
  ∃ written others elements, leaves = written ++ others ∧
    List.Forall₂ (fun p element => leafTokens p = .ok element) written elements ∧
    Strung elements o.tokens ∧
    match o.ending with
    | .ok () => others = []
    | .error e => ∃ p behind, others = p :: behind ∧ leafTokens p = .error e

theorem emitsInOrder_leaf (p : P) : EmitsInOrder [p] (.ofTokens (leafTokens p)) := by
  cases hp : leafTokens p with
  | ok element =>
    have hstrung : Strung [element] element := by
      simpa using Strung.element element .nil
    exact ⟨[p], [], [element], rfl, .cons hp .nil, hstrung, rfl⟩
  | error e => exact ⟨[], [p], [], rfl, .nil, .nil, p, [], rfl, hp⟩

theorem emitsInOrder_tag {token : Token} (h : IsCompositeTag token) :
    EmitsInOrder ([] : List P) (.ofTokens (.ok [token])) :=
  ⟨[], [], [], rfl, .nil, .tag h .nil, rfl⟩

/-- One output after another has the elements of the one and then those of the other. -/
theorem EmitsInOrder.andThen {as bs : List P} {a b : Output} (ha : EmitsInOrder as a)
    (hb : EmitsInOrder bs b) : EmitsInOrder (as ++ bs) (a.andThen b) := by
  obtain ⟨first, firstEnding⟩ := a
  obtain ⟨written, others, elements, rfl, helements, hstrung, hending⟩ := ha
  cases firstEnding with
  | error e =>
    obtain ⟨p, behind, rfl, hp⟩ := hending
    exact ⟨written, p :: behind ++ bs, elements, List.append_assoc _ _ _, helements, hstrung, p,
      behind ++ bs, rfl, hp⟩
  | ok =>
    obtain rfl := hending
    obtain ⟨written', others', elements', rfl, helements', hstrung', hending'⟩ := hb
    refine ⟨written ++ written', others', elements ++ elements', ?_,
      List.rel_append helements helements', hstrung.append hstrung', hending'⟩
    rw [List.append_nil, List.append_assoc]

mutual

/-- **The output of a tree has the elements of its leaves in order.** -/
theorem emitsInOrder_output (c : Condition P) : EmitsInOrder c.leafList c.output := by
  match c with
  | leaf p => exact emitsInOrder_leaf p
  | composite junction children =>
    have hopening : EmitsInOrder ([] : List P) (.ofTokens (.ok [.opening junction.tag []])) :=
      emitsInOrder_tag (.inr ⟨junction, rfl⟩)
    have hclosing : EmitsInOrder ([] : List P) (.ofTokens (.ok [.closing])) :=
      emitsInOrder_tag (.inl rfl)
    have h := hopening.andThen ((emitsInOrder_outputAll children).andThen hclosing)
    rwa [List.append_nil] at h

theorem emitsInOrder_outputAll (cs : List (Condition P)) :
    EmitsInOrder (leafLists cs) (outputAll cs) := by
  match cs with
  | [] => exact ⟨[], [], [], rfl, .nil, .nil, rfl⟩
  | c :: rest => exact (emitsInOrder_output c).andThen (emitsInOrder_outputAll rest)

end

end Writing

/-! ## 3. One order for all -/

/-- **Whoever walks a condition meets its leaves in the order of the document.** The loop of the
    iterator never goes round for ever: each call ends with a leaf or with nothing at the top of the
    stack. After any number of calls the leaves to come are those of the trees on the stack, by
    recursion on the trees, top first, and the next call answers the first of them, or none from
    then on when there are no more. So the leaves of a tree come once each, in the order of the
    recursion, and as many as it counts. Writing puts out their elements in this order, whatever the
    sink, and an evaluation tests some of them in this order, whatever a test does. -/
theorem leaves_inOrder (c : Condition P) :
    (∀ stackAt : Nat → List (Condition P), ¬∀ n, Leaves.Round (stackAt n) (stackAt (n + 1))) ∧
    (∀ it : Leaves P, ReflTransGen Leaves.Round it.stack it.lastStack) ∧
    (∀ (it : Leaves P) (n : Nat), leafLists (it.after n).stack = (leafLists it.stack).drop n ∧
      (it.after n).call.1 = (leafLists it.stack)[n]?) ∧
    (c.leaves.toList = c.leafList ∧ ∀ n, (c.leaves.after n).call.1 = c.leafList[n]?) ∧
    c.leafList.length = c.leafCount ∧
    (∀ [LeafCodec P], EmitsInOrder c.leafList c.output ∧
      ∀ {σ : Type} (sink : Sink σ), c.writeTo sink = c.output.put sink) ∧
    ∀ {σ ε : Type} (test : P → Testing σ ε Bool) (s : σ),
      (((c.evaluate (observed test)).result (s, [])).2.2.map Prod.fst).Sublist c.leafList := by
  have hstart : leafLists c.leaves.stack = c.leafList := leafLists_singleton c
  refine ⟨Leaves.Round.not_forever, fun it => it.rounds_lastStack,
    fun it n => ⟨it.leafLists_after n, it.call_after n⟩, ⟨?_, fun n => ?_⟩, length_leafList c,
    ⟨emitsInOrder_output c, fun sink => writeTo_eq_put sink c⟩, fun test s => ?_⟩
  · rw [Leaves.toList_eq, hstart]
  · rw [Leaves.call_after, hstart]
  · rw [result_evaluate_observed, List.nil_append]
    exact sublist_calls test c s

end Condition

end Verdict
