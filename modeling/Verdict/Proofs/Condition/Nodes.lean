import Verdict.Proofs.Condition.Element
import Verdict.Proofs.Condition.Written
import Verdict.Proofs.Document.Levels

/-!
# Where the nodes of a condition stand in its tokens

* `Condition.openingAt`: the position of the opening tag of a node, by its path;
* **`exists_split_of_at?`**: the tokens of a node stand at this position;
* **`openingAt_lt_openingAt`**: nodes stand in the order of their paths;
* **`exists_node_of_getElem?`**: every opening tag is that of a node or stands in the body of a
  leaf;
* `StandsIn`, **`standsIn_written`**: the three in one;
* `Deepest`, **`exists_highest_eq`**: the deepest node of a tree, the body of a leaf counting with
  its nesting; the highest level is reached there;
* **`toTokens_nodes`**: so a tree is written as one element, and `measure` answers its deepest node.
-/

namespace Verdict

namespace Condition

variable {P : Type} [LeafCodec P]

/-! ## 1. Positions -/

/-- The position of the opening tag of the node at the end of a path: behind the opening tag of its
    parent and the children before it. -/
def openingAt (c : Condition P) : List Nat → Nat
  | [] => 0
  | i :: path => 1 + (writtenAll (c.children.take i)).length +
      (c.children[i]?.map fun child => child.openingAt path).getD 0

theorem writtenAll_append (as bs : List (Condition P)) :
    writtenAll (as ++ bs) = writtenAll as ++ writtenAll bs := by
  induction as with
  | nil => rfl
  | cons c rest ih => rw [List.cons_append, writtenAll, writtenAll, ih, List.append_assoc]

/-- The tokens of one of several trees stand between those of the trees before and behind it. -/
theorem writtenAll_eq_of_getElem? {cs : List (Condition P)} {i : Nat} {child : Condition P}
    (h : cs[i]? = some child) :
    writtenAll cs = writtenAll (cs.take i) ++ child.written ++ writtenAll (cs.drop (i + 1)) := by
  obtain ⟨hi, rfl⟩ := List.getElem?_eq_some_iff.mp h
  conv => lhs; rw [← List.take_append_drop i cs, List.drop_eq_getElem_cons hi]
  rw [writtenAll_append, writtenAll, List.append_assoc]

/-- The leaves of the tree leave nothing open. -/
def LeavesClosed (c : Condition P) : Prop := ∀ p ∈ c.leafList, (leafDraft p).depth = 0

theorem leavesClosed_composite_iff {junction : Junction} {children : List (Condition P)} :
    (composite junction children).LeavesClosed ↔ ∀ c ∈ children, c.LeavesClosed := by
  unfold LeavesClosed
  rw [leafList]
  simp only [mem_leafLists]
  constructor
  · intro h c hc p hp
    exact h p ⟨c, hc, hp⟩
  · rintro h p ⟨c, hc, hp⟩
    exact h c hc p hp

/-- The body of a leaf closes what it opens, whatever is around it. -/
theorem openAfter_body_of_closed {p : P} (h : (leafDraft p).depth = 0) (level : Nat) :
    openAfter (level + 1) (leafDraft p).body = some (level + 1) := by
  have hbody : openAfter 0 (leafDraft p).body = some 0 := h ▸ (leafDraft p).openAfter_body
  have hinside := openAfter_of_within (within_of_openAfter hbody level)
  rwa [Nat.zero_add] at hinside

theorem openAfter_element {level : Nat} {body : List Token} (name : String)
    (attributes : List Attribute) (h : openAfter (level + 1) body = some (level + 1)) :
    openAfter level (.opening name attributes :: body ++ [.closing]) = some level := by
  rw [List.cons_append, openAfter, openAfter_append, h]
  rfl

mutual

/-- The tokens of a tree close what they open, and nothing else. -/
theorem openAfter_written {c : Condition P} (h : c.LeavesClosed) (level : Nat) :
    openAfter level c.written = some level := by
  match c with
  | leaf p =>
    have hp : (leafDraft p).depth = 0 := h p List.mem_cons_self
    exact openAfter_element _ _ (openAfter_body_of_closed hp level)
  | composite junction children =>
    have hchildren := leavesClosed_composite_iff.mp h
    exact openAfter_element _ _ (openAfter_writtenAll hchildren (level + 1))

theorem openAfter_writtenAll {cs : List (Condition P)} (h : ∀ c ∈ cs, c.LeavesClosed)
    (level : Nat) : openAfter level (writtenAll cs) = some level := by
  match cs with
  | [] => rfl
  | c :: rest =>
    obtain ⟨hfirst, hothers⟩ := List.forall_mem_cons.mp h
    rw [writtenAll, openAfter_append, openAfter_written hfirst, Option.bind_some,
      openAfter_writtenAll hothers]

end

/-- **The tokens of a node stand behind its position**, and as many elements are open there as the
    path has indices. The induction is on the path. -/
theorem exists_split_of_at? {c node : Condition P} {path : List Nat} (hclosed : c.LeavesClosed)
    (hat : c.at? path = some node) (level : Nat) :
    node.LeavesClosed ∧ ∃ before behind, c.written = before ++ node.written ++ behind ∧
      before.length = c.openingAt path ∧ openAfter level before = some (level + path.length) := by
  induction path generalizing c level with
  | nil =>
    obtain rfl := Option.some.inj hat
    exact ⟨hclosed, [], [], (List.append_nil _).symm, rfl, rfl⟩
  | cons i path ih =>
    cases c with
    | leaf p => cases hat
    | composite junction children =>
      obtain ⟨child, hchild, hbelow⟩ := at?_composite_eq_some_iff.mp hat
      have hchildren := leavesClosed_composite_iff.mp hclosed
      have hearlier : ∀ c ∈ children.take i, c.LeavesClosed :=
        fun c hc => hchildren c (List.mem_of_mem_take hc)
      obtain ⟨hnode, before, behind, hsplit, hlength, hlevel⟩ :=
        ih (hchildren child (List.mem_of_getElem? hchild)) hbelow (level + 1)
      refine ⟨hnode, .opening junction.tag [] :: writtenAll (children.take i) ++ before,
        behind ++ writtenAll (children.drop (i + 1)) ++ [.closing], ?_, ?_, ?_⟩
      · rw [written, writtenAll_eq_of_getElem? hchild, hsplit]
        simp
      · rw [openingAt, Condition.children, hchild, List.length_append, hlength, List.length_cons,
          Nat.add_comm 1]
        rfl
      · rw [List.cons_append, openAfter, openAfter_append, openAfter_writtenAll hearlier,
          Option.bind_some, hlevel, List.length_cons, Nat.add_right_comm, Nat.add_assoc]

theorem openingAt_composite {junction : Junction} {children : List (Condition P)} {i : Nat}
    {path : List Nat} {child : Condition P} (h : children[i]? = some child) :
    (composite junction children).openingAt (i :: path) =
      1 + (writtenAll (children.take i)).length + child.openingAt path := by
  rw [openingAt, Condition.children, h]
  rfl

theorem openingAt_lt_length {c node : Condition P} {path : List Nat} (hclosed : c.LeavesClosed)
    (hat : c.at? path = some node) : c.openingAt path < c.written.length := by
  obtain ⟨-, before, behind, hsplit, hlength, -⟩ := exists_split_of_at? hclosed hat 0
  obtain ⟨inside, hnode⟩ := exists_written_eq_cons node
  rw [hsplit, hnode, ← hlength, List.length_append, List.length_append, List.length_cons]
  omega

/-- A tree stands in full before the later ones. -/
theorem length_writtenAll_take_le {cs : List (Condition P)} {i j : Nat} {child : Condition P}
    (hchild : cs[i]? = some child) (h : i < j) :
    (writtenAll (cs.take i)).length + child.written.length ≤ (writtenAll (cs.take j)).length := by
  have hearlier : (cs.take j)[i]? = some child := by rw [List.getElem?_take_of_lt h, hchild]
  have htake : (cs.take j).take i = cs.take i := by
    rw [List.take_take, Nat.min_eq_left (Nat.le_of_lt h)]
  rw [writtenAll_eq_of_getElem? hearlier, htake, List.length_append, List.length_append]
  omega

/-- **Nodes stand in the order of their paths.** -/
theorem openingAt_lt_openingAt {c node node' : Condition P} {path path' : List Nat}
    (hclosed : c.LeavesClosed) (hat : c.at? path = some node) (hat' : c.at? path' = some node')
    (h : path < path') : c.openingAt path < c.openingAt path' := by
  induction path generalizing c path' with
  | nil =>
    cases path' with
    | nil => cases h
    | cons j path' =>
      rw [openingAt, openingAt]
      omega
  | cons i path ih =>
    cases path' with
    | nil => cases h
    | cons j path' =>
      cases c with
      | leaf p => cases hat
      | composite junction children =>
        obtain ⟨child, hchild, hbelow⟩ := at?_composite_eq_some_iff.mp hat
        obtain ⟨child', hchild', hbelow'⟩ := at?_composite_eq_some_iff.mp hat'
        have hclosed' : child.LeavesClosed :=
          leavesClosed_composite_iff.mp hclosed child (List.mem_of_getElem? hchild)
        rw [openingAt_composite hchild, openingAt_composite hchild']
        rcases List.cons_lt_cons_iff.mp h with hlt | ⟨rfl, hlt⟩
        · have hinside := openingAt_lt_length hclosed' hbelow
          have hbefore := length_writtenAll_take_le hchild hlt
          omega
        · obtain rfl := Option.some.inj (hchild.symm.trans hchild')
          exact Nat.add_lt_add_left (ih hclosed' hbelow hbelow' hlt) _

/-- The token stands so many tokens behind the opening tag of the node: it is this tag, or a token
    in the body of a leaf. -/
def Holds (node : Condition P) (offset : Nat) (token : Token) : Prop :=
  offset = 0 ∧ token = node.openingTag ∨
    ∃ p index, node = leaf p ∧ offset = index + 1 ∧ (leafDraft p).body[index]? = some token

/-- A token of an element that is not its end is its first token or stands in its body. -/
theorem getElem?_element {first token : Token} {body : List Token} {position : Nat}
    (hclosing : token ≠ .closing)
    (h : (first :: body ++ [.closing])[position]? = some token) :
    position = 0 ∧ token = first ∨ ∃ index, position = index + 1 ∧ body[index]? = some token := by
  cases position with
  | zero => exact .inl ⟨rfl, (Option.some.inj h).symm⟩
  | succ index =>
    rw [List.cons_append, List.getElem?_cons_succ] at h
    by_cases hbody : index < body.length
    · rw [List.getElem?_append_left hbody] at h
      exact .inr ⟨index, rfl, h⟩
    · rw [List.getElem?_append_right (Nat.le_of_not_lt hbody)] at h
      have hend := List.mem_singleton.mp (List.mem_of_getElem? h)
      exact absurd hend hclosing

mutual

/-- **Every token but the ends of elements is the opening tag of a node or stands in the body of a
    leaf.** -/
theorem exists_node_of_getElem? {c : Condition P} {position : Nat} {token : Token}
    (hclosing : token ≠ .closing) (h : c.written[position]? = some token) :
    ∃ path node offset, c.at? path = some node ∧ node.Holds offset token ∧
      position = c.openingAt path + offset := by
  match c with
  | leaf p =>
    refine ⟨[], leaf p, position, rfl, ?_, (Nat.zero_add position).symm⟩
    rcases getElem?_element hclosing h with hfirst | ⟨index, rfl, hbody⟩
    · exact .inl hfirst
    · exact .inr ⟨p, index, rfl, rfl, hbody⟩
  | composite junction children =>
    rcases getElem?_element hclosing h with ⟨rfl, hfirst⟩ | ⟨index, rfl, hbody⟩
    · exact ⟨[], _, 0, rfl, .inl ⟨rfl, hfirst⟩, rfl⟩
    · obtain ⟨i, child, path, node, offset, hchild, hat, hholds, rfl⟩ :=
        exists_node_of_getElem?_all hclosing hbody
      refine ⟨i :: path, node, offset, at?_composite_eq_some_iff.mpr ⟨child, hchild, hat⟩,
        hholds, ?_⟩
      rw [openingAt_composite hchild]
      omega

theorem exists_node_of_getElem?_all {cs : List (Condition P)} {position : Nat} {token : Token}
    (hclosing : token ≠ .closing) (h : (writtenAll cs)[position]? = some token) :
    ∃ i child path node offset, cs[i]? = some child ∧ child.at? path = some node ∧
      node.Holds offset token ∧
      position = (writtenAll (cs.take i)).length + child.openingAt path + offset := by
  match cs with
  | [] => cases h
  | c :: rest =>
    rw [writtenAll] at h
    by_cases hfirst : position < c.written.length
    · rw [List.getElem?_append_left hfirst] at h
      obtain ⟨path, node, offset, hat, hholds, rfl⟩ := exists_node_of_getElem? hclosing h
      exact ⟨0, c, path, node, offset, rfl, hat, hholds, by simp [writtenAll]⟩
    · rw [List.getElem?_append_right (Nat.le_of_not_lt hfirst)] at h
      obtain ⟨i, child, path, node, offset, hchild, hat, hholds, hposition⟩ :=
        exists_node_of_getElem?_all hclosing h
      refine ⟨i + 1, child, path, node, offset, hchild, hat, hholds, ?_⟩
      rw [List.take_succ_cons, writtenAll, List.length_append]
      omega

end

/-- How the nodes of a tree stand in its tokens. -/
structure StandsIn (c : Condition P) (tokens : List Token) : Prop where
  /-- The opening tag of a node stands at its position, -/
  opening : ∀ path node, c.at? path = some node →
    tokens[c.openingAt path]? = some node.openingTag
  /-- inside as many elements as its path has indices. -/
  level : ∀ path node, c.at? path = some node →
    levelAt 0 tokens (c.openingAt path) = some path.length
  /-- These positions are in the order of the paths. -/
  ordered : ∀ path node path' node', c.at? path = some node → c.at? path' = some node' →
    path < path' → c.openingAt path < c.openingAt path'
  /-- Every opening tag is that of a node or stands in the body of a leaf. -/
  holds : ∀ position name attributes, tokens[position]? = some (.opening name attributes) →
    ∃ path node offset, c.at? path = some node ∧ node.Holds offset (.opening name attributes) ∧
      position = c.openingAt path + offset

/-- **The nodes of a tree stand in the tokens that are made of its drafts.** -/
theorem standsIn_written {c : Condition P} (hclosed : c.LeavesClosed) : c.StandsIn c.written where
  opening path node hat := by
    obtain ⟨-, before, behind, hsplit, hlength, -⟩ := exists_split_of_at? hclosed hat 0
    obtain ⟨inside, hnode⟩ := exists_written_eq_cons node
    rw [hsplit, ← hlength, List.append_assoc, List.getElem?_append_right (Nat.le_refl _),
      Nat.sub_self, hnode]
    rfl
  level path node hat := by
    obtain ⟨-, before, behind, hsplit, hlength, hlevel⟩ := exists_split_of_at? hclosed hat 0
    rw [hsplit, levelAt, List.append_assoc, List.take_left' hlength, hlevel, Nat.zero_add]
  ordered path node path' node' hat hat' h := openingAt_lt_openingAt hclosed hat hat' h
  holds position name attributes h := exists_node_of_getElem? Token.noConfusion h

/-! ## 2. Levels -/

/-- How many levels of elements the body of a leaf has; a composite has no body of its own. -/
def bodyLevels : Condition P → Nat
  | leaf p => highest 0 (leafDraft p).body
  | composite _ _ => 0

theorem highest_leaf {p : P} (h : (leafDraft p).depth = 0) (level : Nat) :
    highest level (leaf p).written = level + (1 + (leaf p).bodyLevels) := by
  have hbody : openAfter 0 (leafDraft p).body = some 0 := h ▸ (leafDraft p).openAfter_body
  have hraised := highest_add hbody (level + 1)
  rw [Nat.zero_add] at hraised
  rw [written, LeafDraft.tokens, highest_element _ _ (openAfter_body_of_closed h level), hraised,
    bodyLevels]
  omega

theorem highest_composite {junction : Junction} {children : List (Condition P)}
    (h : ∀ c ∈ children, c.LeavesClosed) (level : Nat) :
    highest level (composite junction children).written =
      highest (level + 1) (writtenAll children) :=
  highest_element _ _ (openAfter_writtenAll h (level + 1))

/-- No node is written higher than its tree. -/
theorem bodyLevels_le_highest {c node : Condition P} {path : List Nat} (hclosed : c.LeavesClosed)
    (hat : c.at? path = some node) : path.length + 1 + node.bodyLevels ≤ highest 0 c.written := by
  obtain ⟨hnode, before, behind, hsplit, -, hlevel⟩ := exists_split_of_at? hclosed hat 0
  rw [Nat.zero_add] at hlevel
  have hinside : path.length + 1 + node.bodyLevels ≤ highest path.length node.written := by
    cases node with
    | leaf p =>
      rw [highest_leaf (hnode p List.mem_cons_self)]
      omega
    | composite junction children =>
      rw [highest_composite (leavesClosed_composite_iff.mp hnode)]
      exact le_highest _ _
  rw [hsplit, List.append_assoc, highest_append hlevel,
    highest_append (openAfter_written hnode path.length)]
  omega

mutual

/-- **The highest level of a tree is reached at a node, or in the body of a leaf.** -/
theorem exists_highest_eq {c : Condition P} (hclosed : c.LeavesClosed) (level : Nat) :
    ∃ path node, c.at? path = some node ∧
      highest level c.written = level + (path.length + 1 + node.bodyLevels) := by
  match c with
  | leaf p =>
    refine ⟨[], leaf p, rfl, ?_⟩
    rw [highest_leaf (hclosed p List.mem_cons_self), List.length_nil, Nat.zero_add]
  | composite junction children =>
    have hchildren := leavesClosed_composite_iff.mp hclosed
    rw [highest_composite hchildren]
    rcases exists_highest_eq_all hchildren (level + 1) with
      hflat | ⟨i, child, path, node, hchild, hat, hhighest⟩
    · exact ⟨[], _, rfl, hflat⟩
    · refine ⟨i :: path, node, at?_composite_eq_some_iff.mpr ⟨child, hchild, hat⟩, ?_⟩
      rw [hhighest, List.length_cons]
      omega

theorem exists_highest_eq_all {cs : List (Condition P)} (hclosed : ∀ c ∈ cs, c.LeavesClosed)
    (level : Nat) : highest level (writtenAll cs) = level ∨
      ∃ (i : Nat) (child : Condition P) (path : List Nat) (node : Condition P),
        cs[i]? = some child ∧ child.at? path = some node ∧
          highest level (writtenAll cs) = level + (path.length + 1 + node.bodyLevels) := by
  match cs with
  | [] => exact .inl rfl
  | c :: rest =>
    obtain ⟨hfirst, hothers⟩ := List.forall_mem_cons.mp hclosed
    have hstart : level ≤ highest level c.written := le_highest _ _
    rw [writtenAll, highest_append (openAfter_written hfirst level)]
    rcases Nat.le_total (highest level (writtenAll rest)) (highest level c.written) with hle | hle
    · rw [Nat.max_eq_left hle]
      obtain ⟨path, node, hat, hhighest⟩ := exists_highest_eq hfirst level
      exact .inr ⟨0, c, path, node, rfl, hat, hhighest⟩
    · rw [Nat.max_eq_right hle]
      rcases exists_highest_eq_all hothers level with
        hflat | ⟨i, child, path, node, hchild, hat, hhighest⟩
      · exact .inl hflat
      · exact .inr ⟨i + 1, child, path, node, hchild, hat, hhighest⟩

end

/-- The depth is that of the deepest node, where a leaf counts with the nesting of its body. -/
structure Deepest (c : Condition P) (depth : Nat) : Prop where
  le_depth : ∀ path node, c.at? path = some node → path.length + 1 + node.bodyLevels ≤ depth
  reaches : ∃ path node, c.at? path = some node ∧ depth = path.length + 1 + node.bodyLevels

theorem deepest_highest {c : Condition P} (hclosed : c.LeavesClosed) :
    c.Deepest (highest 0 c.written) where
  le_depth path node hat := bodyLevels_le_highest hclosed hat
  reaches := by
    obtain ⟨path, node, hat, hhighest⟩ := exists_highest_eq hclosed 0
    exact ⟨path, node, hat, by rw [hhighest, Nat.zero_add]⟩

end Condition

/-! ## 3. Trees that are written -/

open Condition

/-- **A tree is written as one element, whatever its leaves do.** It is written if every leaf comes
    to its end and leaves no element of its body open. Then `measure` accepts its tokens and answers
    the depth of its deepest node, where a leaf counts with the nesting of its body, and the opening
    tags of the nodes stand in the order of their paths. A leaf that leaves an element open makes
    the writing fail. A leaf that makes a sequence of calls is written with those of its tokens that
    are not refused. -/
theorem toTokens_nodes :
    (∀ {P : Type} [LeafCodec P] (c : Condition P),
      ((∃ tokens, c.toTokens = .ok tokens) ↔ ∀ p ∈ c.leafList, Writable p) ∧
      (∀ tokens, c.toTokens = .ok tokens →
        (∃ depth, measure tokens = .ok depth ∧ c.Deepest depth) ∧ c.StandsIn tokens) ∧
      ∀ (before : List P) (p : P) (after : List P), c.leafList = before ++ p :: after →
        (leafDraft p).depth ≠ 0 → ∃ e, c.toTokens = .error e ∧ ((∀ q ∈ before, Writable q) →
          (leafResult p).1 = .ok () → e = .document .unbalanced)) ∧
    ∀ script : LeafScript,
      let body := acceptedFrom 0 (script.calls.filterMap LeafCall.token?)
      leafTokens script =
        if openAfter 0 body = some 0 then
          .ok (.opening script.tag (script.calls.filterMap LeafCall.attribute?) :: body ++
            [.closing])
        else .error (.document .unbalanced) := by
  refine ⟨fun {P} _ c => ?_, leafTokens_script⟩
  rw [toTokens_eq_tokens?]
  refine ⟨?_, fun tokens h => ?_, fun before p after => exists_tokens?_eq_error⟩
  · constructor
    · rintro ⟨tokens, h⟩
      exact (tokens?_eq_ok_iff.mp h).1
    · intro hleaves
      exact ⟨c.written, tokens?_eq_ok_iff.mpr ⟨hleaves, rfl⟩⟩
  · obtain ⟨depth, hdepth⟩ := exists_measure_of_tokens? h
    obtain ⟨hleaves, rfl⟩ := tokens?_eq_ok_iff.mp h
    have hclosed : c.LeavesClosed := fun p hp => (hleaves p hp).closed
    obtain rfl := eq_highest_of_measure hdepth
    exact ⟨⟨_, hdepth, deepest_highest hclosed⟩, standsIn_written hclosed⟩

/-- A leaf two of whose calls are refused, behind an empty composite, and a tree whose second leaf
    leaves an element open. -/
theorem toTokens_nodes_refused_calls :
    let nested : LeafScript := ⟨"test", [.put .closing, .put (.opening "a" []), .put (.text "x"),
      .put .closing, .add "name" "value", .put .closing]⟩
    let dangling : LeafScript := ⟨"test", [.put (.opening "a" [])]⟩
    let tree : Condition LeafScript := allOf [anyOf [], anyOf [leaf nested]]
    let tokens : List Token := [.opening "allOf" [], .opening "anyOf" [], .closing,
      .opening "anyOf" [], .opening "test" [⟨"name", "value"⟩], .opening "a" [], .text "x",
      .closing, .closing, .closing, .closing]
    (tree.toTokens = .ok tokens ∧ measure tokens = .ok 4 ∧ tree.Deepest 4 ∧
      tree.StandsIn tokens ∧ tree.openingAt [1, 0] = 4) ∧
    (leafDraft dangling).depth ≠ 0 ∧
      (allOf [leaf nested, leaf dangling]).toTokens = .error (.document .unbalanced) := by
  intro nested dangling tree tokens
  have htokens : tree.toTokens = .ok tokens := by with_unfolding_all rfl
  have hmeasure : measure tokens = .ok 4 := rfl
  have hopening : tree.openingAt [1, 0] = 4 := by with_unfolding_all rfl
  have hopen : (leafDraft dangling).depth ≠ 0 := by with_unfolding_all decide
  have hwritable : Writable nested := ⟨by with_unfolding_all rfl, by with_unfolding_all rfl⟩
  obtain ⟨⟨depth, hdepth, hdeepest⟩, hstands⟩ := (toTokens_nodes.1 tree).2.1 tokens htokens
  obtain rfl := Except.ok.inj (hmeasure.symm.trans hdepth)
  obtain ⟨e, he, hfirst⟩ := (toTokens_nodes.1 (allOf [leaf nested, leaf dangling])).2.2
    [nested] dangling [] rfl hopen
  obtain rfl := hfirst (by simpa using hwritable) (by with_unfolding_all rfl)
  exact ⟨⟨htokens, hmeasure, hdeepest, hstands, hopening⟩, hopen, he⟩

end Verdict
