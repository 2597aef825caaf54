import Mathlib.Data.List.Basic
import Mathlib.Logic.Relation
import HotReload.Compile.Nodes
/-!
The walk through a syntax tree.

* `Value.nodes_eq`: the nodes in a value are the value, if it is one, and then those in what is
  directly in it. `visit_eq_flatMap`: the walk gives these, for any row of pending values.
* `Walk` is the walk as a loop that keeps the pending values on a stack, the next one last.
  `Walk.step_cases` says what a turn does; with each turn the weight of the stack goes down by
  one, and what has been given and what is still to come stay the same together
  (`Walk.after_invariant`).
* `walk_gives_nodes`: the loop ends, and has then given the nodes in order.
* `mem_nodes_iff`: the nodes are the mappings with a type that are in the tree at all.
-/

namespace HotReload

/-! ### Nodes by recursion -/

namespace Value

lemma nodesOfItems_eq_flatMap (items : List Value) :
    nodesOfItems items = items.flatMap Value.nodes := by
  induction items with
  | nil => rfl
  | cons item items ih => rw [nodesOfItems, ih, List.flatMap_cons]

lemma nodesOfEntries_eq_flatMap (entries : List (Value × Value)) :
    nodesOfEntries entries = (entries.map (·.2)).flatMap Value.nodes := by
  induction entries with
  | nil => rfl
  | cons e entries ih => rw [nodesOfEntries, ih, List.map_cons, List.flatMap_cons]

/-- The nodes in a value are the value, if it is a node, and those in what is directly in it. -/
lemma nodes_eq (v : Value) : v.nodes = v.asNode ++ v.children.flatMap Value.nodes := by
  cases v with
  | map entries => rw [nodes, nodesOfEntries_eq_flatMap, children]
  | list items => exact nodesOfItems_eq_flatMap items
  | tuple items => exact nodesOfItems_eq_flatMap items
  | _ => rfl

/-- The weight of a value is one more than that of what is directly in it. -/
lemma weight_eq (v : Value) : v.weight = weightOfItems v.children + 1 := by
  cases v <;> simp [weight, children, weightOfItems, weightOfItems_values]

lemma weightOfItems_reverse (items : List Value) :
    weightOfItems items.reverse = weightOfItems items := by
  induction items with
  | nil => rfl
  | cons item items ih =>
      rw [List.reverse_cons, weightOfItems_append, ih, weightOfItems, weightOfItems,
        weightOfItems, Nat.add_zero, Nat.add_comm]

lemma weight_lt_of_mem_children {v child : Value} (h : child ∈ v.children) :
    child.weight < v.weight := by
  obtain ⟨before, after, hsplit⟩ := List.append_of_mem h
  rw [weight_eq v, hsplit, weightOfItems_append, weightOfItems]
  omega

/-- What holds of a value whenever it holds of what is directly in it, holds of all values. -/
@[elab_as_elim]
theorem childInduction {motive : Value → Prop}
    (step : ∀ v, (∀ child ∈ v.children, motive child) → motive v) (v : Value) : motive v :=
  step v fun child _ => childInduction step child
termination_by v.weight
decreasing_by exact weight_lt_of_mem_children ‹_›

end Value

/-- The walk gives the nodes of the pending values one after the other. -/
lemma visit_eq_flatMap (pending : List Value) : visit pending = pending.flatMap Value.nodes := by
  induction pending using visit.induct with
  | case1 => rw [visit, List.flatMap_nil]
  | case2 v pending ih =>
      rw [visit, ih, List.flatMap_append, List.flatMap_cons, Value.nodes_eq v, List.append_assoc]

lemma nodesOf_eq_nodes (root : Value) : nodesOf root = root.nodes := by
  rw [nodesOf, visit_eq_flatMap, List.flatMap_singleton]

/-! ### The walk as a loop -/

/-- The state of the loop: the pending values, of which the last one is next, and the nodes that
have been given. -/
structure Walk where
  stack : List Value
  given : List Value

namespace Walk

/-- One turn. The next value is taken off the stack and given if it is a node, and what is
directly in it is put on the stack, the last of it first. An empty stack ends the loop. -/
def step? (w : Walk) : Option Walk :=
  match w.stack.getLast? with
  | none => none
  | some v => some ⟨w.stack.dropLast ++ v.children.reverse, w.given ++ v.asNode⟩

/-- The state after a number of turns, if there are so many. -/
def after : ℕ → Walk → Option Walk
  | 0, w => some w
  | n + 1, w => w.step?.bind (after n)

/-- The loop at its start. -/
def start (root : Value) : Walk := ⟨[root], []⟩

/-- All that the loop has given and is still to give. -/
def all (w : Walk) : List Value := w.given ++ w.stack.reverse.flatMap Value.nodes

variable {w w' : Walk}

/-- A turn exchanges the next value for what is directly in it. -/
lemma step_cases (w : Walk) :
    (w.stack = [] ∧ w.step? = none) ∨
      ∃ stack v, w.stack = stack ++ [v] ∧
        w.step? = some ⟨stack ++ v.children.reverse, w.given ++ v.asNode⟩ := by
  rcases List.eq_nil_or_concat w.stack with hstack | ⟨stack, v, hstack⟩
  · exact .inl ⟨hstack, by rw [step?, hstack]; rfl⟩
  · refine .inr ⟨stack, v, by simpa using hstack, ?_⟩
    rw [step?, hstack]
    simp

/-- With a turn, the stack loses one unit of weight, and all that is given stays the same. -/
lemma step_invariant (h : w.step? = some w') :
    Value.weightOfItems w.stack = Value.weightOfItems w'.stack + 1 ∧ w'.all = w.all := by
  rcases w.step_cases with ⟨-, hnone⟩ | ⟨stack, v, hstack, hstep⟩
  · exact absurd (hnone.symm.trans h) (by simp)
  · obtain rfl := Option.some.inj (hstep.symm.trans h)
    constructor
    · rw [hstack, Value.weightOfItems_append, Value.weightOfItems_append,
        Value.weightOfItems_reverse, Value.weightOfItems, Value.weightOfItems, Value.weight_eq]
      rfl
    · rw [all, all, hstack]
      simp only [List.reverse_append, List.reverse_reverse, List.flatMap_append,
        List.reverse_singleton, List.singleton_append, List.flatMap_cons, Value.nodes_eq v,
        List.append_assoc]

/-- With each turn, the stack loses one unit of weight, and all that is given stays the same. -/
lemma after_invariant {n : ℕ} (h : w.after n = some w') :
    Value.weightOfItems w.stack = n + Value.weightOfItems w'.stack ∧ w'.all = w.all := by
  induction n generalizing w with
  | zero =>
      obtain rfl := Option.some.inj h
      exact ⟨(Nat.zero_add _).symm, rfl⟩
  | succ n ih =>
      obtain ⟨next, hstep, hrest⟩ := Option.bind_eq_some_iff.mp h
      have hturn := step_invariant hstep
      have hturns := ih hrest
      exact ⟨by omega, hturns.2.trans hturn.2⟩

/-- There are as many turns as the stack has weight. -/
lemma exists_after (n : ℕ) (w : Walk) (h : n ≤ Value.weightOfItems w.stack) :
    ∃ w', w.after n = some w' := by
  induction n generalizing w with
  | zero => exact ⟨w, rfl⟩
  | succ n ih =>
      rcases w.step_cases with ⟨hstack, -⟩ | ⟨stack, v, -, hstep⟩
      · rw [hstack, Value.weightOfItems] at h
        omega
      · have hturn := step_invariant hstep
        obtain ⟨w', hw'⟩ := ih ⟨stack ++ v.children.reverse, w.given ++ v.asNode⟩ (by omega)
        exact ⟨w', by rw [after, hstep, Option.bind_some, hw']⟩

lemma stack_eq_nil_iff : w.stack = [] ↔ Value.weightOfItems w.stack = 0 := by
  refine ⟨fun h => by rw [h]; rfl, fun h => ?_⟩
  cases hstack : w.stack with
  | nil => rfl
  | cons v stack =>
      rw [hstack, Value.weightOfItems, Value.weight_eq] at h
      omega

lemma step_eq_none_iff : w.step? = none ↔ w.stack = [] := by
  rcases w.step_cases with ⟨hstack, hnone⟩ | ⟨stack, v, hstack, hstep⟩
  · simp [hstack, hnone]
  · simp [hstack, hstep]

end Walk

/-- **The order of the walk**. The walk gives the nodes in a tree by the recursion that puts each
before those inside it. The loop with the stack ends after as many turns as there are values in the
tree, no sooner and no later, and has then given just these nodes; before that, it has given
a first part of them. -/
theorem walk_gives_nodes (root : Value) :
    nodesOf root = root.nodes ∧
      (Walk.start root).after root.weight = some ⟨[], root.nodes⟩ ∧
      ∀ n w, (Walk.start root).after n = some w →
        n ≤ root.weight ∧ (w.step? = none ↔ n = root.weight) ∧ w.given <+: root.nodes := by
  have hall : (Walk.start root).all = root.nodes := by
    simp [Walk.all, Walk.start]
  have hweight : Value.weightOfItems (Walk.start root).stack = root.weight := by
    simp [Walk.start, Value.weightOfItems]
  refine ⟨nodesOf_eq_nodes root, ?_, fun n w hw => ?_⟩
  · obtain ⟨⟨stack, given⟩, hw⟩ :=
      Walk.exists_after root.weight (Walk.start root) (Nat.le_of_eq hweight.symm)
    -- what has been given and what is left on the stack make up all nodes at every turn
    obtain ⟨hleft, hgiven⟩ := Walk.after_invariant hw
    obtain rfl : stack = [] := (Walk.stack_eq_nil_iff (w := ⟨stack, given⟩)).mpr (by omega)
    rw [hall, Walk.all, List.reverse_nil, List.flatMap_nil, List.append_nil] at hgiven
    dsimp only at hgiven
    rw [hw, hgiven]
  · obtain ⟨hleft, hgiven⟩ := Walk.after_invariant hw
    rw [hweight] at hleft
    refine ⟨by omega, ?_, ?_⟩
    · rw [Walk.step_eq_none_iff, Walk.stack_eq_nil_iff]
      omega
    · rw [← hall, ← hgiven]
      exact List.prefix_append _ _

/-! ### The nodes in a tree -/

/-- A value is in another one: it is this value, or in something that is directly in it. -/
def Value.Holds (root v : Value) : Prop :=
  Relation.ReflTransGen (fun outer inner : Value => inner ∈ outer.children) root v

/-- A mapping with a type. -/
def Value.IsNode (v : Value) : Prop :=
  ∃ entries, v = .map entries ∧ (Mapping.field? typeKey entries).isSome = true

lemma Value.mem_asNode_iff {v n : Value} : n ∈ v.asNode ↔ n = v ∧ v.IsNode := by
  cases v with
  | map entries =>
      rw [asNode]
      split
      · next h => simp [IsNode, h]
      · next h => simp [IsNode, h]
  | _ => simp [asNode, IsNode]

/-- The nodes are the mappings with a type in the tree. -/
theorem mem_nodes_iff {root n : Value} : n ∈ root.nodes ↔ root.Holds n ∧ n.IsNode := by
  constructor
  · intro h
    induction root using Value.childInduction with
    | step v ih =>
        rw [Value.nodes_eq, List.mem_append, List.mem_flatMap] at h
        rcases h with hself | ⟨child, hchild, hn⟩
        · obtain ⟨rfl, hnode⟩ := Value.mem_asNode_iff.mp hself
          exact ⟨.refl, hnode⟩
        · obtain ⟨hholds, hnode⟩ := ih child hchild hn
          exact ⟨.head hchild hholds, hnode⟩
  · rintro ⟨hholds, hnode⟩
    induction hholds using Relation.ReflTransGen.head_induction_on with
    | refl =>
        rw [Value.nodes_eq, List.mem_append]
        exact .inl (Value.mem_asNode_iff.mpr ⟨rfl, hnode⟩)
    | head hchild _ ih =>
        rw [Value.nodes_eq, List.mem_append, List.mem_flatMap]
        exact .inr ⟨_, hchild, ih⟩

end HotReload
