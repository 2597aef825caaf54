import Mathlib.Logic.Function.Iterate
import HotReload.Proofs.ActivationTemplate
import HotReload.Proofs.Runs
/-!
Templates whose component is left open. What an activation template prints depends on the name of
the component only where it prints that name or a literal of it.

* `Stretch` is a part of what is printed: a text, or the name with some literals around it.
  `fill` puts a name into stretches.
* `IsUniform` says that a step does the same for all names, but for the names in what it gives;
  `IsUniform.bind` puts two such steps together.
* `isUniform_eval`, `isUniform_render`: expressions and nodes are such steps, one case for each
  constructor.
* `exists_prints`: a template that can be rendered with one name prints the same stretches
  with all names.
-/

namespace HotReload

/-! ### Stretches -/

/-- The literal of a text. -/
def textLiteral (text : Text) : Text := codeLiteral (.str text) false

lemma textLiteral_ne_nil (text : Text) : textLiteral text ≠ [] := List.cons_ne_nil _ _

/-- The text after its literal has been taken some times. -/
lemma iterate_textLiteral_ne_nil {text : Text} (h : text ≠ []) (n : ℕ) :
    textLiteral^[n] text ≠ [] := by
  cases n with
  | zero => exact h
  | succ n =>
      rw [Function.iterate_succ_apply']
      exact textLiteral_ne_nil _

/-- A part of what a template prints: a text, or the literal of the literal and so on of the name
of the component, which is the name itself if the number is zero. -/
inductive Stretch where
  | text (text : Text)
  | name (literals : ℕ)
  deriving DecidableEq, Repr

/-- The part for a name. -/
def Stretch.fill (name : Text) : Stretch → Text
  | .text t => t
  | .name literals => textLiteral^[literals] name

/-- What is printed for a name. -/
def fill (name : Text) (stretches : List Stretch) : Text := stretches.flatMap (Stretch.fill name)

lemma fill_singleton (name : Text) (stretch : Stretch) : fill name [stretch] = stretch.fill name :=
  List.flatMap_singleton _ _

lemma fill_append (name : Text) (front back : List Stretch) :
    fill name (front ++ back) = fill name front ++ fill name back :=
  List.flatMap_append

/-- What an expression stands for: the same for all names, or a name with literals around it. -/
inductive OpenDatum where
  | closed (datum : Datum)
  | name (literals : ℕ)

/-- The datum for a name. -/
def OpenDatum.fill (name : Text) : OpenDatum → Datum
  | .closed d => d
  | .name literals => .value (.str (textLiteral^[literals] name))

/-- The arguments of a filter for a name. -/
def fillArgs (name : Text) (args : List (Option Text × OpenDatum)) : List (Option Text × Datum) :=
  args.map fun arg => (arg.1, arg.2.fill name)

/-! ### Steps that leave the name open -/

section Steps

variable {α β γ δ : Type}

/-- For every name that is not empty, a step comes out in the same way, with the name put into
what it gives. -/
def IsUniform (step : Text → Except RenderStop α) (put : Text → β → α) : Prop :=
  ∃ outcome : Except RenderStop β, ∀ name, name ≠ [] → step name = outcome.map (put name)

lemma isUniform_ok {step : Text → Except RenderStop α} {put : Text → β → α} (b : β)
    (h : ∀ name, name ≠ [] → step name = .ok (put name b)) : IsUniform step put :=
  ⟨.ok b, h⟩

/-- A step that does not look at the name. -/
lemma isUniform_const {put : Text → β → α} (outcome : Except RenderStop α) (closed : α → β)
    (h : ∀ name a, put name (closed a) = a) : IsUniform (fun _ => outcome) put := by
  refine ⟨outcome.map closed, fun name _ => ?_⟩
  cases outcome with
  | error stop => rfl
  | ok a => exact congrArg Except.ok (h name a).symm

/-- Two steps leave the name open if the second one does, whatever the first one gives. -/
lemma IsUniform.bind {step : Text → Except RenderStop α} {put : Text → β → α}
    {next : Text → α → Except RenderStop γ} {put' : Text → δ → γ} (h : IsUniform step put)
    (hnext : ∀ b, IsUniform (fun name => next name (put name b)) put') :
    IsUniform (fun name => (step name).bind (next name)) put' := by
  obtain ⟨outcome, houtcome⟩ := h
  cases outcome with
  | error stop =>
      refine ⟨.error stop, fun name hname => ?_⟩
      show (step name).bind (next name) = _
      rw [houtcome name hname]
      rfl
  | ok b =>
      obtain ⟨outcome', houtcome'⟩ := hnext b
      refine ⟨outcome', fun name hname => ?_⟩
      show (step name).bind (next name) = _
      rw [houtcome name hname]
      exact houtcome' name hname

lemma IsUniform.map {step : Text → Except RenderStop α} {put : Text → β → α}
    {put' : Text → δ → γ} (h : IsUniform step put) (f : α → γ) (g : β → δ)
    (hput : ∀ name b, put' name (g b) = f (put name b)) :
    IsUniform (fun name => (step name).map f) put' := by
  obtain ⟨outcome, houtcome⟩ := h
  refine ⟨outcome.map g, fun name hname => ?_⟩
  show (step name).map f = _
  rw [houtcome name hname]
  cases outcome with
  | error stop => rfl
  | ok b => exact congrArg Except.ok (hput name b).symm

end Steps

/-! ### Data -/

lemma isUniform_isTruthy (d : OpenDatum) :
    IsUniform (fun name => (d.fill name).isTruthy) (fun _ b => b) := by
  cases d with
  | closed d => exact isUniform_const d.isTruthy id fun _ _ => rfl
  | name n =>
      refine isUniform_ok true fun name hname => ?_
      have htruthy : (Value.str (textLiteral^[n] name)).isTruthy = true := by
        simpa [Value.isTruthy] using iterate_textLiteral_ne_nil hname n
      exact congrArg Except.ok htruthy

lemma isUniform_print (d : OpenDatum) : IsUniform (fun name => (d.fill name).print) fill := by
  cases d with
  | closed d =>
      exact isUniform_const d.print (fun t => [.text t]) fun name t => fill_singleton name (.text t)
  | name n =>
      refine isUniform_ok [.name n] fun name _ => ?_
      rw [fill_singleton]
      rfl

lemma map_printAfter (name : Text) (front back : Except RenderStop (List Stretch)) :
    (printAfter front back).map (fill name) =
      printAfter (front.map (fill name)) (back.map (fill name)) := by
  cases front with
  | ok stretches =>
      cases back with
      | ok more => exact congrArg Except.ok (fill_append name stretches more)
      | error stop => rfl
  | error stop => cases stop <;> cases back <;> rfl

/-- What is printed in two parts leaves the name open if both parts do. -/
lemma IsUniform.printAfter {first rest : Text → Except RenderStop Text}
    (hfirst : IsUniform first fill) (hrest : IsUniform rest fill) :
    IsUniform (fun name => HotReload.printAfter (first name) (rest name)) fill := by
  obtain ⟨front, hfront⟩ := hfirst
  obtain ⟨back, hback⟩ := hrest
  refine ⟨HotReload.printAfter front back, fun name hname => ?_⟩
  rw [map_printAfter, ← hfront name hname, ← hback name hname]

lemma isUniform_literalArgument (args : List (Option Text × OpenDatum)) :
    IsUniform (fun name => literalArgument (fillArgs name args)) OpenDatum.fill := by
  match args with
  | [] => exact isUniform_const _ .closed fun _ _ => rfl
  | [(none, d)] => exact isUniform_ok d fun _ _ => rfl
  | [(some key, d)] =>
      by_cases hkey : key.normal = "null".toList
      · exact isUniform_ok d fun name _ => if_pos hkey
      · exact ⟨.error .wrongArguments, fun name _ => if_neg hkey⟩
  | (none, _) :: _ :: _ | (some _, _) :: _ :: _ => exact ⟨.error .wrongArguments, fun _ _ => rfl⟩

/-- The literal of the name is open, and every other literal the same for all names. -/
lemma isUniform_literalOf (d : OpenDatum) (args : List (Option Text × OpenDatum)) :
    IsUniform (fun name => literalOf (d.fill name) (fillArgs name args)) Stretch.fill := by
  refine (isUniform_literalArgument args).bind fun argument => ?_
  have hclosed (outcome : Except RenderStop Text) :
      IsUniform (fun _ => outcome) Stretch.fill := isUniform_const outcome .text fun _ _ => rfl
  cases d with
  | name n =>
      refine isUniform_ok (.name (n + 1)) fun name _ => ?_
      rw [Stretch.fill, Function.iterate_succ_apply']
      rfl
  | closed d =>
      cases d with
      | undefined _ => exact hclosed _
      | fixture _ => exact hclosed _
      | value v =>
          cases v with
          | null => exact (isUniform_isTruthy argument).bind fun b => hclosed _
          | _ => exact hclosed _

/-- A stretch as a datum. -/
def Stretch.datum : Stretch → OpenDatum
  | .text t => .closed (.value (.str t))
  | .name literals => .name literals

lemma fill_datum (name : Text) (stretch : Stretch) :
    stretch.datum.fill name = .value (.str (stretch.fill name)) := by
  cases stretch <;> rfl

lemma any_fillArgs (name : Text) (args : List (Option Text × OpenDatum)) :
    ((fillArgs name args).any fun arg => arg.1.isSome) = args.any fun arg => arg.1.isSome := by
  rw [fillArgs, List.any_map]
  rfl

lemma isUniform_applyFilter (filter : Text) (d : OpenDatum)
    (args : List (Option Text × OpenDatum)) :
    IsUniform (fun name => applyFilter filter (d.fill name) (fillArgs name args))
      OpenDatum.fill := by
  unfold applyFilter
  simp only [any_fillArgs]
  split
  · exact (isUniform_literalOf d args).map _ Stretch.datum fill_datum
  · split
    · exact ⟨.error .wrongArguments, fun _ _ => rfl⟩
    · exact ⟨.error (.fault (.noFilter filter)), fun _ _ => rfl⟩

/-! ### Expressions and nodes -/

/-- In the scopes for the names, every word stands for the same, or for the name. -/
def IsOpenScope (scope : Text → Scope) : Prop :=
  ∀ word, ∃ d : OpenDatum, ∀ name, (scope name).find word = d.fill name

variable {scope : Text → Scope}

mutual

lemma isUniform_eval (hscope : IsOpenScope scope) :
    (e : TemplateExpr) → IsUniform (fun name => e.eval (scope name)) OpenDatum.fill
  | .constant v => isUniform_ok (.closed (.value v)) fun name _ => by
      rw [TemplateExpr.eval]
      rfl
  | .name word => by
      obtain ⟨d, hd⟩ := hscope word
      refine isUniform_ok d fun name _ => ?_
      rw [TemplateExpr.eval, hd]
  | .negation e => by
      simp only [TemplateExpr.eval]
      exact (isUniform_eval hscope e).bind fun d => (isUniform_isTruthy d).bind fun b =>
        isUniform_ok (.closed (.value (.bool !b))) fun _ _ => rfl
  | .filtered e filter args => by
      simp only [TemplateExpr.eval]
      exact (isUniform_eval hscope e).bind fun d => (isUniform_evalArgs hscope args).bind fun ds =>
        isUniform_applyFilter filter d ds

lemma isUniform_evalArgs (hscope : IsOpenScope scope) :
    (args : List (Option Text × TemplateExpr)) →
      IsUniform (fun name => TemplateExpr.evalArgs (scope name) args) fillArgs
  | [] => isUniform_ok [] fun name _ => by
      rw [TemplateExpr.evalArgs]
      rfl
  | (key, e) :: args => by
      simp only [TemplateExpr.evalArgs]
      exact (isUniform_eval hscope e).bind fun d => (isUniform_evalArgs hscope args).bind fun ds =>
        isUniform_ok ((key, d) :: ds) fun _ _ => rfl

end

mutual

lemma isUniform_render (hscope : IsOpenScope scope) :
    (node : TemplateNode) → IsUniform (fun name => node.render (scope name)) fill
  | .text t => isUniform_ok [.text t] fun name _ => by
      rw [TemplateNode.render, fill_singleton]
      rfl
  | .output e => by
      simp only [TemplateNode.render]
      exact (isUniform_eval hscope e).bind isUniform_print
  | .condition test body otherwise => by
      simp only [TemplateNode.render]
      refine (isUniform_eval hscope test).bind fun d => (isUniform_isTruthy d).bind fun b => ?_
      cases b with
      | true => exact isUniform_renderNodes hscope body
      | false => exact isUniform_renderNodes hscope otherwise

lemma isUniform_renderNodes (hscope : IsOpenScope scope) :
    (nodes : List TemplateNode) → IsUniform (fun name => renderNodes (scope name) nodes) fill
  | [] => isUniform_ok [] fun name _ => by
      rw [renderNodes]
      rfl
  | node :: nodes => by
      simp only [renderNodes]
      exact (isUniform_render hscope node).printAfter (isUniform_renderNodes hscope nodes)

end

/-! ### The activation template -/

/-- The names that the activation template is given, with this name for the component. -/
def nameBindings (name : Text) : Bindings :=
  [("component", .str name), ("global_name", .str hotApiName)]

lemma lookup_cons_of_ne {key other : Text} (h : other ≠ key) (v : Value) (bindings : Bindings) :
    List.lookup other ((key, v) :: bindings) = bindings.lookup other := by
  rw [List.lookup_cons, beq_false_of_ne h]

/-- A word stands for the name if it is looked up as the component, and for the same with all names
otherwise. -/
lemma isOpenScope_nameBindings (template : Text) (bindings : Bindings)
    (identifiers : List (Text × Text)) :
    IsOpenScope fun name => ⟨template, nameBindings name ++ bindings, identifiers⟩ := by
  intro word
  let scope (name : Text) : Scope := ⟨template, nameBindings name ++ bindings, identifiers⟩
  show ∃ d : OpenDatum, ∀ name, (scope name).find word = d.fill name
  -- the name under which the word is looked up is the same for all names
  generalize hfound : (identifiers.lookup word.normal).getD word = found
  have hlookupName (name : Text) : (scope name).lookupName word = found := hfound
  by_cases hself : found = selfName
  · refine ⟨.closed (.fixture ("<TemplateReference " ++ template.quoted ++ ">")), fun name => ?_⟩
    rw [Scope.find, hlookupName, if_pos hself]
    rfl
  · by_cases hcomponent : found = "component".toList
    · refine ⟨.name 0, fun name => ?_⟩
      have hvalue : (scope name).bindings.lookup found = some (.str name) := by
        rw [hcomponent]
        rfl
      rw [Scope.find, hlookupName, if_neg hself, hvalue]
      rfl
    · refine ⟨.closed ((scope []).find word), fun name => ?_⟩
      have hlookup (name : Text) : (scope name).bindings.lookup found =
          (("global_name".toList, Value.str hotApiName) :: bindings).lookup found :=
        lookup_cons_of_ne hcomponent (.str name) _
      show (scope name).find word = (scope []).find word
      rw [Scope.find, Scope.find, hlookupName, hlookupName, hlookup, hlookup]

namespace Activation

variable {a : Activation} {library : TemplateLibrary} {disk : Disk} {name text : Text}
  {stretches : List Stretch}

/-- With every name that is not empty, the activation template prints these stretches. -/
def Prints (a : Activation) (library : TemplateLibrary) (disk : Disk)
    (stretches : List Stretch) : Prop :=
  ∀ name, name ≠ [] →
    a.renderWith library disk activationTemplate (nameBindings name) = .ok (fill name stretches)

/-- What is rendered with one name is rendered with all of them, and in the same way. -/
theorem exists_prints (hname : name ≠ [])
    (h : a.renderWith library disk activationTemplate (nameBindings name) = .ok text) :
    ∃ stretches, a.Prints library disk stretches := by
  obtain ⟨nodes, hnodes, hcopied⟩ := bind_eq_ok.mp h
  obtain ⟨u, hcopy, hrender⟩ := bind_eq_ok.mp hcopied
  obtain ⟨outcome, houtcome⟩ := isUniform_renderNodes
    (isOpenScope_nameBindings activationTemplate a.bindings (identifiersOf nodes)) nodes
  have hrender : renderNodes ⟨activationTemplate, nameBindings name ++ a.bindings,
      identifiersOf nodes⟩ nodes = .ok text := mapError_eq_ok.mp hrender
  have hprinted : outcome.map (fill name) = .ok text := (houtcome name hname).symm.trans hrender
  cases outcome with
  | error stop => exact absurd hprinted (by simp [Except.map])
  | ok stretches =>
      refine ⟨stretches, fun other hother => bind_eq_ok.mpr ⟨nodes, hnodes, ?_⟩⟩
      refine bind_eq_ok.mpr ⟨u, hcopy, mapError_eq_ok.mpr ?_⟩
      exact houtcome other hother

end Activation

end HotReload
