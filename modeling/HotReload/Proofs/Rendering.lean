import Mathlib.Data.List.Forall2
import HotReload.Proofs.Runs
import HotReload.Template.Render
/-!
What a template prints, node by node.

* `renderNodes_cons_eq_ok`: a row of nodes prints a text if each of its nodes does.
* `renderNodes_of_forall₂`: nodes print what each of them prints.
* `exists_render_of_mem`: if nodes print, each of them prints. `exists_renderNodes_append`: so
  do the first and the last of them.
* `render_text_value`, `render_literal`, `render_condition`: what one node prints.
-/

namespace HotReload

variable {scope : Scope}

/-- Two parts print a text if both of them do. -/
lemma printAfter_eq_ok {first rest : Except RenderStop Text} {out : Text} :
    printAfter first rest = .ok out ↔
      ∃ front back, first = .ok front ∧ rest = .ok back ∧ out = front ++ back := by
  cases first with
  | ok front =>
      rw [printAfter, map_eq_ok]
      simp [eq_comm]
  | error stop =>
      have hfails : printAfter (.error stop) rest ≠ .ok out := by
        cases stop <;> cases rest <;> simp [printAfter, Except.bind]
      simp [hfails]

lemma renderNodes_cons_eq_ok {node : TemplateNode} {nodes : List TemplateNode} {out : Text} :
    renderNodes scope (node :: nodes) = .ok out ↔
      ∃ front back, node.render scope = .ok front ∧ renderNodes scope nodes = .ok back ∧
        out = front ++ back := by
  rw [renderNodes, printAfter_eq_ok]

/-- Nodes print one after the other what each of them prints. -/
theorem renderNodes_of_forall₂ {nodes : List TemplateNode} {texts : List Text}
    (h : List.Forall₂ (fun node text => TemplateNode.render scope node = .ok text) nodes texts) :
    renderNodes scope nodes = .ok texts.flatten := by
  induction h with
  | nil => rw [renderNodes]; rfl
  | cons hnode _ ih => exact renderNodes_cons_eq_ok.mpr ⟨_, _, hnode, ih, rfl⟩

/-- If nodes print, then so does each of them. -/
lemma exists_render_of_mem {node : TemplateNode} {nodes : List TemplateNode} {out : Text}
    (h : renderNodes scope nodes = .ok out) (hnode : node ∈ nodes) :
    ∃ text, node.render scope = .ok text := by
  induction nodes generalizing out with
  | nil => exact absurd hnode List.not_mem_nil
  | cons first nodes ih =>
      obtain ⟨front, back, hfirst, hrest, -⟩ := renderNodes_cons_eq_ok.mp h
      rcases List.mem_cons.mp hnode with rfl | hmem
      · exact ⟨front, hfirst⟩
      · exact ih hrest hmem

/-- If nodes print, then the first of them print the start and the others the end. -/
lemma exists_renderNodes_append {nodes more : List TemplateNode} {out : Text}
    (h : renderNodes scope (nodes ++ more) = .ok out) :
    ∃ front back, renderNodes scope nodes = .ok front ∧ renderNodes scope more = .ok back ∧
      out = front ++ back := by
  induction nodes generalizing out with
  | nil =>
      have hempty : renderNodes scope [] = .ok [] := by
        rw [renderNodes]
      exact ⟨[], out, hempty, h, rfl⟩
  | cons node nodes ih =>
      obtain ⟨text, rest, htext, hrest, rfl⟩ := renderNodes_cons_eq_ok.mp h
      obtain ⟨front, back, hfront, hback, rfl⟩ := ih hrest
      refine ⟨text ++ front, back, ?_, hback, (List.append_assoc text front back).symm⟩
      exact renderNodes_cons_eq_ok.mpr ⟨text, front, htext, hfront, rfl⟩

/-! ### One node -/

lemma render_text (text : Text) : TemplateNode.render scope (.text text) = .ok text := by
  rw [TemplateNode.render]

/-- A name that stands for a text prints it. -/
lemma render_text_value {word text : Text} (h : scope.find word = .value (.str text)) :
    TemplateNode.render scope (.output (.name word)) = .ok text := by
  rw [TemplateNode.render, TemplateExpr.eval, h]
  rfl

lemma literalOf_value (v : Value) :
    literalOf (.value v) [] = printable v.literalExcess? (codeLiteral v false) := by
  cases v <;> rfl

/-- A name with the filter for literals prints the literal of its value. -/
lemma render_literal {word : Text} {v : Value} (h : scope.find word = .value v) :
    TemplateNode.render scope (.output (.filtered (.name word) literalFilter [])) =
      printable v.literalExcess? (codeLiteral v false) := by
  rw [TemplateNode.render, TemplateExpr.eval, TemplateExpr.eval, TemplateExpr.evalArgs, h]
  have hfilter : applyFilter literalFilter (.value v) [] =
      (printable v.literalExcess? (codeLiteral v false)).map fun text => .value (.str text) := by
    rw [applyFilter, if_pos rfl, literalOf_value]
  show ((applyFilter literalFilter (.value v) []).bind Datum.print) = _
  rw [hfilter]
  cases v.literalExcess? <;> rfl

lemma literalArgument_null (d : Datum) : literalArgument [(some "null", d)] = .ok d := by
  rw [literalArgument]
  exact if_pos (by decide +kernel)

lemma literalOf_null {v flag : Value} (hv : v.literalExcess? = none) :
    literalOf (.value v) [(some "null", .value flag)] = .ok (codeLiteral v flag.isTruthy) := by
  rw [literalOf, literalArgument_null]
  by_cases hnull : v = .null
  · subst hnull
    rfl
  · have hliteral : codeLiteral v flag.isTruthy = codeLiteral v false := by
      cases v <;> first | exact absurd rfl hnull | rfl
    have hprint : printable v.literalExcess? (codeLiteral v false) = .ok (codeLiteral v false) := by
      rw [hv, printable]
    rw [hliteral, ← hprint]
    cases v <;> first | exact absurd rfl hnull | rfl

/-- The argument of the filter tells how null is printed. -/
lemma render_literal_null {word other : Text} {v flag : Value}
    (h : scope.find word = .value v) (hflag : scope.find other = .value flag)
    (hv : v.literalExcess? = none) :
    TemplateNode.render scope
      (.output (.filtered (.name word) literalFilter [(some "null", .name other)])) =
      .ok (codeLiteral v flag.isTruthy) := by
  have hargs : TemplateExpr.evalArgs scope [(some "null", .name other)] =
      .ok [(some "null", .value flag)] := by
    rw [TemplateExpr.evalArgs, TemplateExpr.evalArgs, TemplateExpr.eval, hflag]
    rfl
  have hfilter : applyFilter literalFilter (.value v) [(some "null", .value flag)] =
      .ok (.value (.str (codeLiteral v flag.isTruthy))) := by
    rw [applyFilter, if_pos rfl, literalOf_null hv]
    rfl
  rw [TemplateNode.render, TemplateExpr.eval, TemplateExpr.eval, h, hargs]
  show ((applyFilter literalFilter (.value v) [(some "null", .value flag)]).bind Datum.print) = _
  rw [hfilter]
  rfl

/-- A text under a condition is printed if the condition holds. -/
lemma render_condition {test : TemplateExpr} {v : Value} (h : test.eval scope = .ok (.value v))
    (text : Text) :
    TemplateNode.render scope (.condition test [.text text] []) =
      .ok (if v.isTruthy then text else []) := by
  have hbody : renderNodes scope [.text text] = .ok text := by
    rw [renderNodes_of_forall₂ (.cons (render_text text) .nil)]
    simp
  have hempty : renderNodes scope [] = .ok [] := by
    rw [renderNodes]
  rw [TemplateNode.render, h]
  show (if v.isTruthy then renderNodes scope [.text text] else renderNodes scope []) = _
  rw [hbody, hempty]
  split <;> rfl

lemma eval_negation {word : Text} {v : Value} (h : scope.find word = .value v) :
    (TemplateExpr.negation (.name word)).eval scope = .ok (.value (.bool !v.isTruthy)) := by
  rw [TemplateExpr.eval, TemplateExpr.eval, h]
  rfl

end HotReload
