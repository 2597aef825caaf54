import HotReload.Json.Literal
import HotReload.Run
import HotReload.Template.Node
import HotReload.Text.Normal
/-!
The text of a template.

* `Datum` is what an expression stands for: a value, an object that is there in every
  template, or a name that stands for nothing.
* `Scope` finds what a name stands for. Names that are the same identifier share one value,
  that of the one which comes last.
* `TemplateExpr.eval` finds it, `TemplateNode.render` and `renderNodes` print.
* A name that stands for nothing is a fault where it is printed or tested, and `undefined` as
  a literal.
* A surrogate that is printed stops nothing: what is rendered is no `Text` then, but only if the
  rest can be rendered (`printAfter`).
-/

namespace HotReload

/-- What an expression stands for. -/
inductive Datum where
  | value (value : Value)
  /-- An object without a literal that is there in every template, and its text. -/
  | fixture (shown : Text)
  /-- A name that stands for nothing. -/
  | undefined (name : Text)

/-- The values of the names in a template. -/
abbrev Bindings := List (Text × Value)

/-- Why a rendering stops. -/
inductive RenderStop where
  | fault (fault : RenderFault)
  /-- A filter is given arguments that it does not take. -/
  | wrongArguments
  | excess (excess : Excess)
  /-- All is rendered, with a surrogate in it. -/
  | halved
  deriving DecidableEq, Repr

/-- The failure of the template of this name. -/
def RenderStop.failure (template : Text) : RenderStop → Failure
  | .fault cause => .template (.renderFailed template cause)
  | .wrongArguments => .wrongKind
  | .excess e => .excess e
  | .halved => .halved

/-- A text, unless there is too much of something in what it shows. -/
def printable (excess? : Option Excess) (text : Text) : Except RenderStop Text :=
  match excess? with
  | none => .ok text
  | some e => .error (.excess e)

namespace Datum

/-- The truth value. A name that stands for nothing has none. -/
def isTruthy : Datum → Except RenderStop Bool
  | .value v => .ok v.isTruthy
  | .fixture _ => .ok true
  | .undefined name => .error (.fault (.undefined name))

/-- The text that is printed. -/
def print : Datum → Except RenderStop Text
  | .value (.unpaired _) => .error .halved
  | .value v => printable v.textExcess? v.display
  | .fixture shown => .ok shown
  | .undefined name => .error (.fault (.undefined name))

end Datum

/-! ### The names in a template -/

mutual

/-- The names in an expression, in order. -/
def TemplateExpr.names : TemplateExpr → List Text
  | .constant _ => []
  | .name word => [word]
  | .negation e => e.names
  | .filtered e _ args => e.names ++ TemplateExpr.argNames args

/-- The names in arguments. -/
def TemplateExpr.argNames : List (Option Text × TemplateExpr) → List Text
  | [] => []
  | (_, e) :: args => e.names ++ TemplateExpr.argNames args

end

mutual

/-- The names in a node, in order. -/
def TemplateNode.names : TemplateNode → List Text
  | .text _ => []
  | .output e => e.names
  | .condition test body otherwise =>
      test.names ++ TemplateNode.namesOfAll body ++ TemplateNode.namesOfAll otherwise

/-- The names in nodes. -/
def TemplateNode.namesOfAll : List TemplateNode → List Text
  | [] => []
  | node :: nodes => node.names ++ TemplateNode.namesOfAll nodes

end

/-! ### What names stand for -/

/-- The names that stand for an object in every template unless they are given a value, and
the texts of the objects. -/
def fixtures : List (Text × Text) :=
  [("range", "<class 'range'>"), ("dict", "<class 'dict'>"),
    ("lipsum", "<function generate_lorem_ipsum>"), ("cycler", "<class 'jinja2.utils.Cycler'>"),
    ("joiner", "<class 'jinja2.utils.Joiner'>"),
    ("namespace", "<class 'jinja2.utils.Namespace'>")]

/-- The name by which a template refers to itself. -/
def selfName : Text := "self"

/-- The name under which each identifier of a template is looked up: the one whose first
occurrence is the last. The name by which the template refers to itself counts as its
first. -/
def identifiersOf (nodes : List TemplateNode) : List (Text × Text) :=
  let names := TemplateNode.namesOfAll nodes
  let ordered := (if names.contains selfName then selfName :: names else names).eraseDups
  (ordered.map fun name => (name.normal, name)).reverse

/-- What a template can use: its own name, the values of names, and the names under which
its identifiers are looked up. -/
structure Scope where
  template : Text
  bindings : Bindings
  identifiers : List (Text × Text)

/-- The name under which a name is looked up. -/
def Scope.lookupName (scope : Scope) (name : Text) : Text :=
  (scope.identifiers.lookup name.normal).getD name

/-- What a name stands for. -/
def Scope.find (scope : Scope) (name : Text) : Datum :=
  let found := scope.lookupName name
  if found = selfName then .fixture ("<TemplateReference " ++ scope.template.quoted ++ ">")
  else
    match scope.bindings.lookup found, fixtures.lookup found with
    | some v, _ => .value v
    | none, some shown => .fixture shown
    | none, none => .undefined name

/-! ### Filters -/

/-- The name of the filter that gives literals. -/
def literalFilter : Text := "js"

/-- The argument of the filter that gives literals: one at most, and by no other name than
`null`. -/
def literalArgument (args : List (Option Text × Datum)) : Except RenderStop Datum :=
  match args with
  | [] => .ok (.value (.bool false))
  | [(none, d)] => .ok d
  | [(some name, d)] => if name.normal = "null".toList then .ok d else .error .wrongArguments
  | _ => .error .wrongArguments

/-- The literal of a datum. The argument tells whether null is printed as `null`, and is
looked at only then. -/
def literalOf (d : Datum) (args : List (Option Text × Datum)) : Except RenderStop Text := do
  let argument ← literalArgument args
  match d with
  | .undefined _ | .fixture _ => return "undefined"
  | .value .null => return codeLiteral .null (← argument.isTruthy)
  | .value v => printable v.literalExcess? (codeLiteral v false)

/-- A filter at work. One that does not exist takes no arguments by name. -/
def applyFilter (filter : Text) (d : Datum) (args : List (Option Text × Datum)) :
    Except RenderStop Datum :=
  if filter = literalFilter then (literalOf d args).map fun text => .value (.str text)
  else if args.any (·.1.isSome) then .error .wrongArguments
  else .error (.fault (.noFilter filter))

/-! ### Rendering -/

/-- What is printed in two parts. A fault of the second one comes before a surrogate in the
first one. -/
def printAfter {α : Type} (first rest : Except RenderStop (List α)) :
    Except RenderStop (List α) :=
  match first with
  | .ok front => rest.map (front ++ ·)
  | .error .halved => rest.bind fun _ => .error .halved
  | .error stop => .error stop

mutual

/-- What an expression stands for. -/
def TemplateExpr.eval (scope : Scope) : TemplateExpr → Except RenderStop Datum
  | .constant v => .ok (.value v)
  | .name word => .ok (scope.find word)
  | .negation e => do
      let b ← (← e.eval scope).isTruthy
      return .value (.bool !b)
  | .filtered e filter args => do
      let d ← e.eval scope
      let args ← TemplateExpr.evalArgs scope args
      applyFilter filter d args

/-- What arguments stand for. -/
def TemplateExpr.evalArgs (scope : Scope) :
    List (Option Text × TemplateExpr) → Except RenderStop (List (Option Text × Datum))
  | [] => .ok []
  | (key, e) :: args => do
      let d ← e.eval scope
      let rest ← TemplateExpr.evalArgs scope args
      return (key, d) :: rest

end

mutual

/-- The text of a node. -/
def TemplateNode.render (scope : Scope) : TemplateNode → Except RenderStop Text
  | .text text => .ok text
  | .output e => do (← e.eval scope).print
  | .condition test body otherwise => do
      if ← (← test.eval scope).isTruthy then renderNodes scope body
      else renderNodes scope otherwise

/-- The text of nodes, one after the other. -/
def renderNodes (scope : Scope) : List TemplateNode → Except RenderStop Text
  | [] => .ok []
  | node :: nodes => printAfter (node.render scope) (renderNodes scope nodes)

end

/-! ### Unknown filters -/

mutual

/-- Whether all filters of an expression are known. -/
def TemplateExpr.filtersKnown : TemplateExpr → Bool
  | .constant _ | .name _ => true
  | .negation e => e.filtersKnown
  | .filtered e filter args =>
      e.filtersKnown && filter == literalFilter && TemplateExpr.argFiltersKnown args

/-- Whether all filters of arguments are known. -/
def TemplateExpr.argFiltersKnown : List (Option Text × TemplateExpr) → Bool
  | [] => true
  | (_, e) :: args => e.filtersKnown && TemplateExpr.argFiltersKnown args

end

/-! ### Repeated names -/

mutual

/-- Whether a filter of an expression is given two arguments of one name. -/
def TemplateExpr.repeatsName : TemplateExpr → Bool
  | .constant _ | .name _ => false
  | .negation e => e.repeatsName
  | .filtered e _ args =>
      e.repeatsName || !(args.filterMap fun arg => arg.1.map Text.normal).Nodup ||
        TemplateExpr.argsRepeatName args

/-- Whether that is so for an argument. -/
def TemplateExpr.argsRepeatName : List (Option Text × TemplateExpr) → Bool
  | [] => false
  | (_, e) :: args => e.repeatsName || TemplateExpr.argsRepeatName args

end

mutual

/-- Whether that is so for an expression in a node. -/
def TemplateNode.repeatsName : TemplateNode → Bool
  | .text _ => false
  | .output e => e.repeatsName
  | .condition test body otherwise =>
      test.repeatsName || TemplateNode.anyRepeatsName body ||
        TemplateNode.anyRepeatsName otherwise

/-- Whether that is so for one of the nodes. -/
def TemplateNode.anyRepeatsName : List TemplateNode → Bool
  | [] => false
  | node :: nodes => node.repeatsName || TemplateNode.anyRepeatsName nodes

end

/-! ### Reading -/

/-- Whether a node can be used at all. A filter in a condition or in what depends on one is
looked up only when it is used. -/
def TemplateNode.isUsable : TemplateNode → Bool
  | .output e => e.filtersKnown
  | .text _ | .condition _ _ _ => true

/-- The most conditions one inside the other of a template that is used. -/
def mostConditions : Nat := 98

/-- The most conditions one inside the other of a template that is read. -/
def mostReadConditions : Nat := 240

/-- A template that has been read: the nodes of a text that can be used. -/
def readTemplate (characters : CharacterNames) (template : Text) :
    Except Failure (List TemplateNode) :=
  if mostReadConditions < conditionDepth characters template then .error (.excess .nesting)
  else
    match nodesOfTemplate characters template with
    | none => .error .malformedTemplate
    | some nodes =>
        if !nodes.all TemplateNode.isUsable then .error .unknownFilter
        else if mostConditions < conditionDepth characters template then .error .deepTemplate
        else if TemplateNode.anyRepeatsName nodes then .error .repeatedArgument
        else .ok nodes

/-- The text of the template of this name. -/
def renderTemplate (name : Text) (bindings : Bindings) (nodes : List TemplateNode) :
    Except Failure Text :=
  (renderNodes ⟨name, bindings, identifiersOf nodes⟩ nodes).mapError (RenderStop.failure name)

end HotReload
