import HotReload.Value
/-!
The nodes of a syntax tree: the mappings with a `type` in a nest of mappings, lists and
tuples.

* `Value.nodes` gives them by recursion: a mapping before what is in it, and what is in
  it in order.
* `visit` gives the nodes of a row of values by taking the first value, and putting
  what is directly in it in front of the rest; `nodesOf` starts it at a root.
-/

namespace HotReload

/-- The key that makes a mapping a node. -/
def typeKey : Text := "type"

/-- A mapping with a type is a node. -/
def Value.asNode : Value → List Value
  | .map entries => if (Mapping.field? typeKey entries).isSome then [.map entries] else []
  | _ => []

mutual

/-- The nodes in a value, each before those inside it. -/
def Value.nodes : Value → List Value
  | .map entries => (Value.map entries).asNode ++ Value.nodesOfEntries entries
  | .list items => Value.nodesOfItems items
  | .tuple items => Value.nodesOfItems items
  | _ => []

/-- The nodes in items, one item after the other. -/
def Value.nodesOfItems : List Value → List Value
  | [] => []
  | item :: items => item.nodes ++ Value.nodesOfItems items

/-- The nodes in the values of entries, one entry after the other. -/
def Value.nodesOfEntries : List (Value × Value) → List Value
  | [] => []
  | (_, value) :: entries => value.nodes ++ Value.nodesOfEntries entries

end

/-! ### Walking with a row of pending values -/

/-- What is directly in a value. -/
def Value.children : Value → List Value
  | .map entries => entries.map (·.2)
  | .list items => items
  | .tuple items => items
  | _ => []

mutual

/-- The number of values in a value, itself included. -/
def Value.weight : Value → Nat
  | .map entries => Value.weightOfEntries entries + 1
  | .list items => Value.weightOfItems items + 1
  | .tuple items => Value.weightOfItems items + 1
  | _ => 1

/-- The number of values in items. -/
def Value.weightOfItems : List Value → Nat
  | [] => 0
  | item :: items => item.weight + Value.weightOfItems items

/-- The number of values in the values of entries. -/
def Value.weightOfEntries : List (Value × Value) → Nat
  | [] => 0
  | (_, value) :: entries => value.weight + Value.weightOfEntries entries

end

theorem Value.weightOfItems_append (xs ys : List Value) :
    Value.weightOfItems (xs ++ ys) = Value.weightOfItems xs + Value.weightOfItems ys := by
  induction xs with
  | nil => simp [Value.weightOfItems]
  | cons x xs ih => simp [Value.weightOfItems, ih]; omega

theorem Value.weightOfItems_values (entries : List (Value × Value)) :
    Value.weightOfItems (entries.map (·.2)) = Value.weightOfEntries entries := by
  induction entries with
  | nil => simp [Value.weightOfItems, Value.weightOfEntries]
  | cons e entries ih =>
    obtain ⟨key, value⟩ := e
    simp [Value.weightOfItems, Value.weightOfEntries, ih]

/-- What is directly in a value weighs less than the value. -/
theorem Value.weightOfItems_children_lt (v : Value) :
    Value.weightOfItems v.children < v.weight := by
  cases v <;>
    simp [Value.children, Value.weight, Value.weightOfItems, Value.weightOfItems_values]

/-- The nodes of a row of pending values, taken from the front: each value is replaced
by what is directly in it. -/
def visit : List Value → List Value
  | [] => []
  | v :: pending => v.asNode ++ visit (v.children ++ pending)
termination_by pending => Value.weightOfItems pending
decreasing_by
  have := Value.weightOfItems_children_lt v
  simp only [Value.weightOfItems_append, Value.weightOfItems]
  omega

/-- The nodes of a syntax tree. -/
def nodesOf (root : Value) : List Value := visit [root]

end HotReload
