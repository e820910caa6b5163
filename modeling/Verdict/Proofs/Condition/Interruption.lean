import Verdict.Proofs.Condition.Nodes

/-!
# What an interrupted write leaves behind

Writing is interrupted where a leaf has no tokens, or where the sink refuses a token, whichever
comes first.

* `Sink.StoresFirst`: a sink that stores tokens as long as it has room;
* `StoresFront`: a writing step that puts certain tokens into such a sink and then ends by itself;
  where they do not fit, the first ones are stored and the error is that of the sink;
* **`storesFront_put`**: outputs are such steps;
* `WrittenUpTo`: the tokens ahead of the first leaf with a fault, and this fault -- there are some
  for every tree (`exists_writtenUpTo`), and they are its output (**`output_eq_of_writtenUpTo`**);
* **`writeTo_storesFront`**: so what a write leaves behind is the front of these tokens.
-/

namespace Verdict

variable {σ : Type} {sink : Sink σ} {holds : σ → List Token → Prop} {room : Nat} {s : σ}

/-! ## 1. Sinks with room for some tokens -/

/-- The sink holds the tokens that it was given as long as there is room for them, and refuses every
    one behind them, each with an error of its own. -/
structure Sink.StoresFirst (sink : Sink σ) (holds : σ → List Token → Prop) (room : Nat) : Prop where
  stores : ∀ token s held, holds s held → held.length < room →
    ∃ s', (sink token).result s = (.ok (), s') ∧ holds s' (held ++ [token])
  refuses : ∀ token s held, holds s held → held.length = room →
    ∃ error s', (sink token).result s = (.error error, s') ∧ holds s' held

theorem Sink.storesFirst_limited (room : Nat) (full : DocumentError) :
    (Sink.limited room full).StoresFirst (· = ·) room := by
  have hlimited : ∀ (token : Token) (held : List Token), (limited room full token).result held =
      if held.length < room then (.ok (), held ++ [token]) else (.error full, held) := by
    intro token held
    have hget : (get : Writing (List Token) DocumentError (List Token)).result held =
        (.ok held, held) := rfl
    rw [limited, Writing.result_bind_of_ok hget]
    split <;> rfl
  constructor
  · rintro token held _ rfl hroom
    exact ⟨_, (hlimited token held).trans (if_pos hroom), rfl⟩
  · rintro token held _ rfl hroom
    have hfull : ¬held.length < room := Nat.not_lt_of_le (Nat.le_of_eq hroom.symm)
    exact ⟨full, held, (hlimited token held).trans (if_neg hfull), rfl⟩

/-- Tokens that fit into the room that is left are stored. -/
theorem Sink.StoresFirst.result_forM (h : sink.StoresFirst holds room) {held tokens : List Token}
    (hs : holds s held) (hfits : held.length + tokens.length ≤ room) :
    ∃ s', (tokens.forM sink).result s = (.ok (), s') ∧ holds s' (held ++ tokens) := by
  induction tokens generalizing s held with
  | nil => exact ⟨s, rfl, (List.append_nil held).symm ▸ hs⟩
  | cons token rest ih =>
    rw [List.length_cons] at hfits
    obtain ⟨s₁, hfirst, hs₁⟩ := h.stores token s held hs (by omega)
    have hfits₁ : (held ++ [token]).length + rest.length ≤ room := by
      rw [List.length_append, List.length_singleton]
      omega
    obtain ⟨s', hrest, hs'⟩ := ih hs₁ hfits₁
    refine ⟨s', ?_, ?_⟩
    · rw [Writing.result_forM_cons, Writing.result_bind_of_ok hfirst]
      exact hrest
    · rwa [List.append_assoc] at hs'

/-- The token behind those for which there is room is refused, and ends the writing. -/
theorem Sink.StoresFirst.result_forM_refused (h : sink.StoresFirst holds room)
    {held front : List Token} (hs : holds s held) (hfull : held.length + front.length = room)
    (token : Token) (back : List Token) :
    ∃ before error s', holds before (held ++ front) ∧
      (sink token).result before = (.error error, s') ∧ holds s' (held ++ front) ∧
        ((front ++ token :: back).forM sink).result s = (.error error, s') := by
  obtain ⟨before, hfront, hbefore⟩ := h.result_forM hs (Nat.le_of_eq hfull)
  have hlength : (held ++ front).length = room := by rw [List.length_append, hfull]
  obtain ⟨error, s', hrefused, hs'⟩ := h.refuses token before _ hbefore hlength
  refine ⟨before, error, s', hbefore, hrefused, hs', ?_⟩
  have happend : (front ++ token :: back).forM sink =
      (front.forM sink >>= fun _ => (token :: back).forM sink) := List.forM_append
  rw [happend, Writing.result_bind_of_ok hfront, Writing.result_forM_cons, Writing.result_bind,
    hrefused]

/-- A writing step puts out these tokens and then ends in this way: into a sink with room for them
    all it stores them; else those for which there is room, and hands on the error with which the
    sink refuses the next one. -/
structure StoresFront (sink : Sink σ) (holds : σ → List Token → Prop) (room : Nat) (s : σ)
    (x : Writing σ WriteError Unit) (tokens : List Token) (ending : Except WriteError Unit) :
    Prop where
  fits : tokens.length ≤ room → ∃ s', x.result s = (ending, s') ∧ holds s' tokens
  overflows : ∀ token, tokens[room]? = some token → ∃ before error s',
    holds before (tokens.take room) ∧ (sink token).result before = (.error error, s') ∧
      holds s' (tokens.take room) ∧ x.result s = (.error (.document error), s')

/-- **An output is stored as far as there is room.** -/
theorem storesFront_put (h : sink.StoresFirst holds room) (hs : holds s []) (o : Output) :
    StoresFront sink holds room s (o.put sink) o.tokens o.ending where
  fits hlength := by
    have hfits : ([] : List Token).length + o.tokens.length ≤ room := by
      rw [List.length_nil, Nat.zero_add]
      exact hlength
    obtain ⟨s', hrun, hs'⟩ := h.result_forM hs hfits
    exact ⟨s', Output.result_put hrun, hs'⟩
  overflows token htoken := by
    obtain ⟨hroom, rfl⟩ := List.getElem?_eq_some_iff.mp htoken
    have hfull : ([] : List Token).length + (o.tokens.take room).length = room := by
      rw [List.length_take_of_le (Nat.le_of_lt hroom), List.length_nil, Nat.zero_add]
    obtain ⟨before, error, s', hbefore, hrefused, hs', hrun⟩ :=
      h.result_forM_refused hs hfull o.tokens[room] (o.tokens.drop (room + 1))
    rw [← List.drop_eq_getElem_cons hroom, List.take_append_drop] at hrun
    refine ⟨before, error, s', hbefore, hrefused, hs', ?_⟩
    rw [Output.put, Writing.result_bind, Output.result_forM_emit, hrun]
    rfl

namespace Condition

variable {P : Type} [LeafCodec P]

/-! ## 2. The first fault -/

/-- The first leaf of a tree with a fault, by its path. -/
structure FirstFault (c : Condition P) (path : List Nat) (p : P) (error : WriteError) : Prop where
  stands : c.at? path = some (leaf p)
  fault : LeafFault p error
  earlier : ∀ path' q, path' < path → c.at? path' = some (leaf q) → Writable q

/-- The tokens ahead of the first leaf with a fault, and this fault; all tokens if there is none. -/
inductive WrittenUpTo (c : Condition P) : List Token → Except WriteError Unit → Prop
  | whole (writable : ∀ p ∈ c.leafList, Writable p) : WrittenUpTo c c.written (.ok ())
  | front {path : List Nat} {p : P} {error : WriteError} (first : c.FirstFault path p error) :
      WrittenUpTo c (c.written.take (c.openingAt path)) (.error error)

theorem writable_of_failure? {p : P} (h : failure? (leafTokens p) = none) : Writable p := by
  cases htokens : leafTokens p with
  | error e =>
    rw [htokens] at h
    cases h
  | ok tokens => exact (leafTokens_eq_ok_iff.mp htokens).1

theorem fault_of_failure? {p : P} {error : WriteError}
    (h : failure? (leafTokens p) = some error) : LeafFault p error := by
  cases htokens : leafTokens p with
  | error e =>
    rw [htokens] at h
    cases h
    exact leafTokens_eq_error_iff.mp htokens
  | ok tokens =>
    rw [htokens] at h
    cases h

/-- A tree has a first leaf with a fault, or none. -/
theorem exists_writtenUpTo (c : Condition P) : ∃ tokens ending, c.WrittenUpTo tokens ending := by
  cases hfirst : c.labelled.leafList.findSome? fun leaf => failure? (leafTokens leaf.2) with
  | none =>
    refine ⟨_, _, .whole fun p hp => ?_⟩
    obtain ⟨path, hat⟩ := mem_leafList.mp hp
    have hmem := mem_leafList_labelled.mpr hat
    exact writable_of_failure? (List.findSome?_eq_none_iff.mp hfirst _ hmem)
  | some error =>
    obtain ⟨before, ⟨path, p⟩, after, hleaves, hfault, hbefore⟩ :=
      List.findSome?_eq_some_iff.mp hfirst
    have hmem : (path, p) ∈ c.labelled.leafList := by rw [hleaves]; simp
    have hordered := pairwise_leafList_labelled c
    rw [hleaves, List.map_append, List.pairwise_append, List.map_cons,
      List.pairwise_cons] at hordered
    obtain ⟨-, ⟨hlater, -⟩, -⟩ := hordered
    refine ⟨_, _, .front ⟨mem_leafList_labelled.mp hmem, fault_of_failure? hfault, ?_⟩⟩
    intro path' q hlt hat
    have hq := mem_leafList_labelled.mpr hat
    rw [hleaves, List.mem_append, List.mem_cons] at hq
    rcases hq with hq | hq | hq
    · exact writable_of_failure? (hbefore _ hq)
    · obtain ⟨rfl, -⟩ := Prod.mk.inj hq
      exact absurd hlt (List.lt_irrefl _)
    · exact absurd (hlater _ (List.mem_map_of_mem hq)) (List.lt_asymm hlt)

/-- Trees without faults are put out in full. -/
theorem outputAll_of_writable {cs : List (Condition P)} (h : ∀ p ∈ leafLists cs, Writable p) :
    outputAll cs = ⟨writtenAll cs, .ok ()⟩ := by
  refine Output.eq_of_whole ?_
  rw [whole_outputAll, tokensAll?_eq_ok_iff]
  exact ⟨h, rfl⟩

/-- Below the root it is the first one of a child, and the children before this have none. -/
theorem FirstFault.child {junction : Junction} {children : List (Condition P)} {i : Nat}
    {path : List Nat} {p : P} {error : WriteError}
    (h : (composite junction children).FirstFault (i :: path) p error) :
    ∃ child, children[i]? = some child ∧ child.FirstFault path p error ∧
      ∀ q ∈ leafLists (children.take i), Writable q := by
  obtain ⟨child, hchild, hstands⟩ := at?_composite_eq_some_iff.mp h.stands
  refine ⟨child, hchild, ⟨hstands, h.fault, fun path' q hlt hat => ?_⟩, fun q hq => ?_⟩
  · exact h.earlier (i :: path') q (List.cons_lt_cons_iff.mpr (.inr ⟨rfl, hlt⟩))
      (at?_composite_eq_some_iff.mpr ⟨child, hchild, hat⟩)
  · obtain ⟨earlier, hearlier, hq⟩ := mem_leafLists.mp hq
    obtain ⟨j, hj⟩ := List.mem_iff_getElem?.mp hearlier
    obtain ⟨path', hat⟩ := mem_leafList.mp hq
    rw [List.getElem?_take] at hj
    split at hj
    · rename_i hlt
      exact h.earlier (j :: path') q (List.cons_lt_cons_iff.mpr (.inl hlt))
        (at?_composite_eq_some_iff.mpr ⟨earlier, hj, hat⟩)
    · cases hj

/-- **The output ends in front of the first leaf with a fault.** The induction is on its path. -/
theorem exists_output_eq {c : Condition P} {path : List Nat} {p : P} {error : WriteError}
    (h : c.FirstFault path p error) : ∃ before behind, c.written = before ++ behind ∧
      before.length = c.openingAt path ∧ c.output = ⟨before, .error error⟩ := by
  induction path generalizing c with
  | nil =>
    obtain rfl := Option.some.inj h.stands
    refine ⟨[], _, rfl, rfl, ?_⟩
    rw [output, leafTokens_eq_error_iff.mpr h.fault]
    rfl
  | cons i path ih =>
    cases c with
    | leaf q => cases h.stands
    | composite junction children =>
      obtain ⟨child, hchild, hbelow, hearlier⟩ := h.child
      obtain ⟨before, behind, hsplit, hlength, houtput⟩ := ih hbelow
      refine ⟨.opening junction.tag [] :: writtenAll (children.take i) ++ before,
        behind ++ writtenAll (children.drop (i + 1)) ++ [.closing], ?_, ?_, ?_⟩
      · rw [written, writtenAll_eq_of_getElem? hchild, hsplit]
        simp
      · rw [openingAt_composite hchild, List.length_append, List.length_cons, hlength,
          Nat.add_comm 1]
      · obtain ⟨hi, rfl⟩ := List.getElem?_eq_some_iff.mp hchild
        have hchildren : outputAll children =
            ⟨writtenAll (children.take i) ++ before, .error error⟩ := by
          conv => lhs; rw [← List.take_append_drop i children, List.drop_eq_getElem_cons hi]
          rw [outputAll_append, outputAll_of_writable hearlier, outputAll, houtput]
          rfl
        rw [output, hchildren]
        rfl

/-- **The output of a tree is what is written up to its first fault.** -/
theorem output_eq_of_writtenUpTo {c : Condition P} {tokens : List Token}
    {ending : Except WriteError Unit} (h : c.WrittenUpTo tokens ending) :
    c.output = ⟨tokens, ending⟩ := by
  cases h with
  | whole writable =>
    refine Output.eq_of_whole ?_
    rw [whole_output, tokens?_eq_ok_iff]
    exact ⟨writable, rfl⟩
  | front first =>
    obtain ⟨before, behind, hsplit, hlength, houtput⟩ := exists_output_eq first
    rw [houtput, hsplit, List.take_left' hlength]

/-! ## 3. What is left behind -/

/-- **A failed write leaves exactly a prefix behind.** Of the tokens ahead of the first leaf with a
    fault the sink stores as many as it has room for. It is the error of the sink that is answered
    where they do not fit, and else the fault; where there is none, the write succeeds. -/
theorem writeTo_storesFront (h : sink.StoresFirst holds room) (hs : holds s [])
    (c : Condition P) :
    (∃ tokens ending, c.WrittenUpTo tokens ending) ∧
      ∀ tokens ending, c.WrittenUpTo tokens ending →
        StoresFront sink holds room s (c.writeTo sink) tokens ending := by
  refine ⟨c.exists_writtenUpTo, fun tokens ending hwritten => ?_⟩
  rw [writeTo_eq_put, output_eq_of_writtenUpTo hwritten]
  exact storesFront_put h hs ⟨tokens, ending⟩

/-- A leaf that leaves an element open behind one that does not, and a sink with room for two or for
    five tokens. -/
theorem writeTo_storesFront_limited :
    let closed : LeafScript := ⟨"test", [.put (.text "x")]⟩
    let dangling : LeafScript := ⟨"test", [.put (.opening "a" [])]⟩
    let tree : Condition LeafScript := allOf [leaf closed, anyOf [leaf dangling, leaf closed]]
    let tokens : List Token := [.opening "allOf" [], .opening "test" [], .text "x", .closing,
      .opening "anyOf" []]
    let written (room : Nat) :=
      (tree.writeTo (Sink.limited room (.unexpectedEnd "room"))).result []
    (∀ room, (Sink.limited room (.unexpectedEnd "room")).StoresFirst (· = ·) room) ∧
      tree.WrittenUpTo tokens (.error (.document .unbalanced)) ∧
      written 2 = (.error (.document (.unexpectedEnd "room")), tokens.take 2) ∧
      written 5 = (.error (.document .unbalanced), tokens) := by
  intro closed dangling tree tokens written
  have hsink := fun room => Sink.storesFirst_limited room (.unexpectedEnd "room")
  have hclosed : Writable closed := ⟨by with_unfolding_all rfl, by with_unfolding_all rfl⟩
  have hfirst : tree.FirstFault [1, 0] dangling (.document .unbalanced) := by
    refine ⟨rfl, .dangling (by with_unfolding_all rfl) (by with_unfolding_all decide), ?_⟩
    intro path q hlt hat
    have hleaves : (path, q) ∈ [([0], closed), ([1, 0], dangling), ([1, 1], closed)] :=
      mem_leafList_labelled.mpr hat
    simp only [List.mem_cons, Prod.mk.injEq, List.not_mem_nil, or_false] at hleaves
    obtain ⟨rfl, rfl⟩ | ⟨rfl, rfl⟩ | ⟨rfl, rfl⟩ := hleaves
    · exact hclosed
    · exact absurd hlt (by decide)
    · exact absurd hlt (by decide)
  have hwritten : tree.WrittenUpTo tokens (.error (.document .unbalanced)) := by
    have htokens : tree.written.take (tree.openingAt [1, 0]) = tokens := by with_unfolding_all rfl
    exact htokens ▸ .front hfirst
  have hfront := fun room => (writeTo_storesFront (hsink room) rfl tree).2 _ _ hwritten
  obtain ⟨before, error, s', hbefore, hrefused, hstored, hrun⟩ :=
    (hfront 2).overflows (.text "x") rfl
  obtain ⟨s₅, hrun₅, hstored₅⟩ := (hfront 5).fits (by decide)
  refine ⟨hsink, hwritten, ?_, ?_⟩
  · obtain rfl : before = tokens.take 2 := hbefore
    obtain rfl : s' = tokens.take 2 := hstored
    cases hrefused
    exact hrun
  · obtain rfl : s₅ = tokens := hstored₅
    exact hrun₅

end Condition

end Verdict
