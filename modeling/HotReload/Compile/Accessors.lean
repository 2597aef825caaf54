import HotReload.Compile.Nodes
import HotReload.Run
/-!
Whether a component declares the accessors option.

The option shows up in the syntax tree of the compile result as an attribute of a node
of type `Options`. The tree is read by a walker, which gives its nodes; the nodes are
looked at in turn, up to the first that declares the option.

* `Walker` is the type of walkers, `hasAccessors` the answer.
* `AccessorSearch` has the answer together with the nodes that were looked at.
-/

namespace HotReload

/-- A way to get at the nodes of a tree. -/
abbrev Walker := Value → List Value

/-- The member of a mapping, or null; other values have no members. -/
def Value.member (key : Text) : Value → Except Failure Value
  | .map entries => .ok (Mapping.field key entries)
  | _ => .error .missingMember

/-- Whether generated code takes a value for true: empty lists and objects are true, and
`nan` is false. -/
def Value.isTrueInCode : Value → Bool
  | .null => false
  | .bool b => b
  | .str t => !t.isEmpty
  | .int n => n != 0
  | .float x => !x.isNaN && !x.isZero
  | .nan _ => false
  | _ => true

/-- Whether an attribute is the accessors option, and set. -/
def declaresAccessors (option : Value) : Except Failure Bool := do
  let name ← option.member "name"
  if name.same "accessors" then
    let value ← option.member "value"
    return value.isTrueInCode
  else return false

/-- The things that a collection goes through: items, keys, characters or bytes. -/
def Value.elements : Value → Except Failure (List Value)
  | .list items => .ok items
  | .tuple items => .ok items
  | .map entries => .ok (entries.map (·.1))
  | .str text => .ok (text.map fun c => .str [c])
  | .unpaired text => .ok (text.raw.map fun point => valueOfRaw [point])
  | .bytes row => .ok (row.map fun b => .int b.toNat)
  | _ => .error .wrongKind

/-- Looks for the first element with a property. -/
def firstWith (test : Value → Except Failure Bool) : List Value → Except Failure Bool
  | [] => .ok false
  | v :: vs =>
      match test v with
      | .ok false => firstWith test vs
      | other => other

/-- Whether a node declares the accessors option. -/
def isAccessorsNode (node : Value) : Except Failure Bool := do
  let type ← node.member typeKey
  if type.same "Options" then
    let attributes ← node.member "attributes"
    if attributes.isTruthy then
      let elements ← attributes.elements
      firstWith declaresAccessors elements
    else return false
  else return false

/-- The nodes that were looked at, and the answer: nothing if there is no tree. -/
structure AccessorSearch where
  visited : List Value
  answer : Except Failure (Option Bool)

/-- Looks at nodes up to the first that declares the option or cannot be read. -/
def searchNodes : List Value → AccessorSearch
  | [] => ⟨[], .ok (some false)⟩
  | node :: nodes =>
      match isAccessorsNode node with
      | .ok false =>
          let search := searchNodes nodes
          ⟨node :: search.visited, search.answer⟩
      | .ok true => ⟨[node], .ok (some true)⟩
      | .error failure => ⟨[node], .error failure⟩

/-- The tree of the template in a compile result, if there is one. -/
def templateTree (compiled : Value) : Except Failure (Option Value) := do
  let ast ← compiled.member "ast"
  if ast.isTruthy then
    let html ← ast.member "html"
    return if html.isTruthy then some html else none
  else return none

/-- Looks for the accessors option in a compile result. -/
def searchAccessors (walk : Walker) (compiled : Value) : AccessorSearch :=
  match templateTree compiled with
  | .error failure => ⟨[], .error failure⟩
  | .ok none => ⟨[], .ok none⟩
  | .ok (some html) => searchNodes (walk html)

/-- Whether the component declares the accessors option, if the compile result tells. -/
def hasAccessors (walk : Walker) (compiled : Value) : Except Failure (Option Bool) :=
  (searchAccessors walk compiled).answer

end HotReload
