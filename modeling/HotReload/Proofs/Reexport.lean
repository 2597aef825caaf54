import HotReload.Proofs.Transform
/-!
The export that an activation ends with is the one that a later splice finds.

* `exists_flatten_eq`: whatever a component is made of, the line of the built-in template ends
  with a semicolon, a blank and a brace, so that nothing on it can begin the piece of the export.
* `isLastExport_of_lead`: behind a semicolon and a few characters that begin no keyword, a
  statement is the last one if no statement follows.
* `not_hasExport_behind`: none follows in the activation, unless the id of the stylesheet holds
  the keyword.
* `splice_of_transform`: splicing the code of a component that has been made hot.
-/

namespace HotReload

/-! ### The end of the line -/

/-- The lines that close the call in the template, but for the last one. -/
def closingLines (isVite : Bool) : List (Text × Text) :=
  [ActivationFacts.indented "  " "\x7d);"] ++
    (if isVite then [ActivationFacts.indented "  " "import.meta.hot.accept();"] else []) ++
    [ActivationFacts.indented [] "\x7d"]

lemma isIndented_closingLines (isVite : Bool) :
    ∀ line ∈ closingLines isVite, Text.IsIndented line := by
  have hclose : Text.IsIndented (ActivationFacts.indented "  " "\x7d);") := ⟨by decide, by decide⟩
  have haccept : Text.IsIndented (ActivationFacts.indented "  " "import.meta.hot.accept();") :=
    ⟨by decide, by decide⟩
  have hend : Text.IsIndented (ActivationFacts.indented [] "\x7d") := ⟨by decide, by decide⟩
  cases isVite
  · exact List.forall_mem_cons.mpr ⟨hclose, List.forall_mem_singleton.mpr hend⟩
  · exact List.forall_mem_cons.mpr ⟨hclose, List.forall_mem_cons.mpr
      ⟨haccept, List.forall_mem_singleton.mpr hend⟩⟩

variable {a : Activation}

/-- The last nodes print a comma at the end of a line, and the closing lines. -/
lemma renderNodes_closingNodes (a : Activation) :
    renderNodes (activationScope a) (activationNodes.drop 24) =
      .ok (',' :: '\n' ::
        (closingLines a.compatVite.isTruthy).flatMap fun line => line.1 ++ line.2 ++ ['\n']) := by
  have hvite : (activationScope a).find "compat_vite" = .value a.compatVite :=
    find_activationScope a (by decide) rfl
  have hnodes : renderNodes (activationScope a) (activationNodes.drop 24) =
      .ok [[','] ++ ['\n'] ++ "  " ++ "\x7d);" ++ ['\n'],
        if a.compatVite.isTruthy then "  " ++ "import.meta.hot.accept();" ++ ['\n'] else [],
        "\x7d" ++ ['\n']].flatten :=
    renderNodes_of_forall₂ <| .cons (render_text _) <|
      .cons (render_condition (by rw [TemplateExpr.eval, hvite]) _) <|
      .cons (render_text _) .nil
  rw [hnodes]
  cases a.compatVite.isTruthy <;> rfl

/-- Whatever the names stand for, the template prints the closing lines last, and a comma at the
end of the line before them. -/
lemma exists_closingLines {text : Text}
    (h : renderNodes (activationScope a) activationNodes = .ok text) :
    ∃ front, text = front ++ ',' :: '\n' ::
      (closingLines a.compatVite.isTruthy).flatMap fun line => line.1 ++ line.2 ++ ['\n'] := by
  rw [← List.take_append_drop 24 activationNodes] at h
  obtain ⟨front, back, -, hback, rfl⟩ := exists_renderNodes_append h
  rw [Except.ok.inj (hback.symm.trans (renderNodes_closingNodes a))]
  exact ⟨front, rfl⟩

/-- The line of the template ends with a semicolon, a blank and a brace. -/
lemma exists_flatten_eq {text : Text}
    (h : renderNodes (activationScope a) activationNodes = .ok text) :
    ∃ head, text.flatten = head ++ ';' :: " \x7d" := by
  obtain ⟨front, rfl⟩ := exists_closingLines h
  -- the lines behind the comma are kept as they are, whatever stands before
  have hkept : Text.keptLines (front ++ ',' :: '\n' ::
      (closingLines a.compatVite.isTruthy).flatMap fun line => line.1 ++ line.2 ++ ['\n']) =
      Text.keptLines (front ++ [',']) ++ (closingLines a.compatVite.isTruthy).map Prod.snd := by
    rw [List.append_cons, Text.keptLines_append_cons,
      Text.keptLines_lines (isIndented_closingLines _)]
  rw [Text.flatten_eq_join, hkept]
  cases a.compatVite.isTruthy with
  | false =>
      refine ⟨(Text.keptLines (front ++ [','])).flatMap (· ++ [' ']) ++ "\x7d)", ?_⟩
      rw [Text.join_append _ _ (by simp [closingLines]), List.append_assoc]
      rfl
  | true =>
      refine ⟨(Text.keptLines (front ++ [','])).flatMap (· ++ [' ']) ++
        "\x7d); import.meta.hot.accept()", ?_⟩
      rw [Text.join_append _ _ (by simp [closingLines]), List.append_assoc]
      rfl

/-- With the template that is built in, the text of an activation ends its line in the same way
before the export, whatever the activation is made of. -/
theorem exists_line_of_text {library : TemplateLibrary} {disk : Disk} {x out : Text}
    (hlibrary : library.origin? disk activationTemplate = some (.builtIn activationText))
    (h : a.text library disk x = .ok out) :
    ∃ line, out = line ++ ';' :: " \x7d" ++ Activation.exportOf x ++ a.injection ++ "\n" := by
  obtain ⟨text, htext, rfl⟩ := Activation.exists_renderWith h
  have hrender := Activation.renderTemplate_of_renderWith
    (template_of_builtIn hlibrary (readTemplate_activationText _))
    (Activation.bindingsWith_slotBindings a) htext
  obtain ⟨head, hhead⟩ := exists_flatten_eq (mapError_eq_ok.mp hrender)
  have hbrace : ¬ Activation.slot <:+: (" \x7d" : Text) := by decide
  have hreplace : Text.replace Activation.slot x text.flatten =
      Text.replace Activation.slot x head ++ ';' :: " \x7d" := by
    rw [hhead, Text.replace_append_cons ActivationFacts.slot_ne_nil x (by decide),
      Text.replace_of_not_infix x hbrace]
  refine ⟨a.imports ++ ";" ++ Text.replace Activation.slot x head, ?_⟩
  rw [hreplace]
  simp only [List.append_assoc]

/-! ### The last statement -/

/-- No keyword begins in a text without its first letter. -/
lemma length_le_of_keyword_append {lead rest xs ys : Text} (hlead : 'e' ∉ lead)
    (h : lead ++ rest = xs ++ exportKeyword ++ ys) : lead.length ≤ xs.length := by
  rw [List.append_assoc] at h
  rcases List.append_eq_append_iff.mp h with ⟨behind, rfl, -⟩ | ⟨part, rfl, hpart⟩
  · rw [List.length_append]
    omega
  · obtain ⟨tail, hkeyword⟩ := exists_keyword_eq_cons
    rw [hkeyword] at hpart
    cases part with
    | nil => simp
    | cons c part =>
        obtain ⟨rfl, -⟩ := List.cons.inj hpart
        exact absurd (by simp) hlead

/-- A statement at the start of a line is the last one if no statement follows, and if its piece
begins with nothing that holds the first letter of the keyword. -/
lemma isLastExport_of_lead (before : Text) {lead component behind : Text} (hlead : ';' ∉ lead)
    (hletter : 'e' ∉ lead) (hcomponent : ';' ∉ component) (hbehind : ¬ HasExport behind) :
    IsLastExport
      (⟨before ++ ';' :: lead, true, component, behind⟩ : ExportStatement).code
      ⟨before ++ ';' :: lead, true, component, behind⟩ where
  code_eq := rfl
  component_piece := hcomponent
  newline_iff := by
    simp only [ExportStatement.lineEnd, lineEndIf, if_true, List.getLast?_concat]
  first_of_piece := by
    refine ⟨before ++ [';'], lead, by simp, .inr (by simp), hlead, fun xs ys h => ?_⟩
    rw [List.append_assoc] at h
    have hstart : 'e' ∉ lead ++ ['\n'] := by
      rw [List.mem_append, not_or]
      exact ⟨hletter, by decide⟩
    exact length_le_of_keyword_append hstart h
  last := hbehind

/-- A line end between two texts belongs to no statement of theirs. -/
lemma not_hasExport_append_newline {text rest : Text} (htext : ¬ exportKeyword <:+: text)
    (hrest : ¬ HasExport rest) : ¬ HasExport (text ++ '\n' :: rest) := by
  rintro ⟨lead, component, behind, h⟩
  rw [List.append_assoc] at h
  rcases word_before_or_behind (by decide) h with ⟨more, hmore, -⟩ | ⟨more, hmore, -⟩
  · exact htext ⟨lead, more, hmore.symm⟩
  · exact hrest ⟨more, component, behind, by rw [hmore, ← List.append_assoc]⟩

/-- The statement that adds the stylesheet, if there is one, holds no keyword of an export. -/
def Activation.IsQuiet (a : Activation) : Prop :=
  a.injectCss.isTruthy = true → a.cssId.isTruthy = true →
    ¬ exportKeyword <:+: codeLiteral a.cssId false

lemma not_keyword_injection (h : a.IsQuiet) : ¬ exportKeyword <:+: a.injection := by
  rw [Activation.injection]
  split
  · next hstyles =>
      rw [Bool.and_eq_true] at hstyles
      rintro ⟨xs, ys, hkeyword⟩
      -- the literal stands between parentheses, which are not in the keyword
      have hopen : ("\nif (typeof add_css !== 'undefined' && !document.getElementById(" : Text) =
          "\nif (typeof add_css !== 'undefined' && !document.getElementById" ++ ['('] := by decide
      have hclose : (")) add_css();" : Text) = ')' :: ") add_css();" := by decide
      rw [hopen, hclose, List.append_assoc _ (codeLiteral _ _), List.append_assoc _ ['('],
        List.singleton_append] at hkeyword
      rcases word_before_or_behind (by decide) hkeyword.symm with
        ⟨more, hmore, -⟩ | ⟨more, hmore, -⟩
      · have hfront : ¬ exportKeyword <:+:
            ("\nif (typeof add_css !== 'undefined' && !document.getElementById" : Text) := by decide
        exact hfront ⟨xs, more, hmore.symm⟩
      · rcases word_before_or_behind (by decide) hmore with ⟨part, hpart, -⟩ | ⟨part, hpart, -⟩
        · exact h hstyles.1 hstyles.2 ⟨more, part, hpart.symm⟩
        · have hback : ¬ exportKeyword <:+: (") add_css();" : Text) := by decide
          exact hback ⟨part, ys, hpart.symm⟩
  · decide

/-- No statement follows the export of an activation, if none follows the replaced one. -/
lemma not_hasExport_behind {after : Text} (h : a.IsQuiet) (hafter : ¬ HasExport after) :
    ¬ HasExport ("\n" ++ a.injection ++ "\n" ++ after) := by
  have hend : ("\n" ++ a.injection ++ "\n" ++ after : Text) =
      [] ++ '\n' :: (a.injection ++ '\n' :: after) := by
    simp
  rw [hend]
  exact not_hasExport_append_newline (by decide)
    (not_hasExport_append_newline (not_keyword_injection h) hafter)

/-! ### Splicing again -/

variable {t : Transformer} {disk : Disk} {component : Component} {code : Text}

lemma exportOf_eq (x : Text) :
    Activation.exportOf x = "\nexport default " ++ x ++ (";" ++ "\n") := by
  have hend : (";\n" : Text) = ";" ++ "\n" := by decide
  exact congrArg ("\nexport default " ++ x ++ ·) hend

/-- The code in which the export of an activation stands as a statement. -/
lemma code_exportOf (before lead component behind : Text) :
    (⟨before ++ ';' :: lead, true, component, behind⟩ : ExportStatement).code =
      before ++ ';' :: lead ++ "\nexport default " ++ component ++ ";" ++ behind := by
  have hkeyword : ("\nexport default " : Text) = lineEndIf true ++ exportKeyword := by decide
  rw [ExportStatement.code, ExportStatement.lineEnd, hkeyword, ← List.append_assoc _ (lineEndIf _)]
  rfl

/-- **The last export of a hot component**. When a component has been made hot with the template
that is built in, its last export statement is the one that the activation ends with, and exports
the same component: every renderer that is spliced into the code is called with that
component, and what it gives takes the place of that statement. The id of the stylesheet, if it
stands behind the statement, must not hold the keyword; all else may hold anything. -/
theorem splice_of_transform {out : Text}
    (hlibrary : t.library.origin? disk activationTemplate = some (.builtIn activationText))
    (hcode : component.code = .str code) (hexport : HasExport code)
    (ha : (t.activation component code).result = .ok a) (hquiet : a.IsQuiet)
    (h : (t.transform disk component).result = .ok out) :
    ∃ s line, IsLastExport code s ∧
      out = s.before ++ line ++ "\nexport default " ++ s.component ++ ";" ++
        ("\n" ++ a.injection ++ "\n" ++ s.after) ∧
      ∀ render : Text → Run Text, splice out render = do
        let text ← render s.component
        return s.before ++ line ++ text ++ ("\n" ++ a.injection ++ "\n" ++ s.after) := by
  -- the output is the code around the last statement, with the activation in its place
  obtain ⟨a', s, text, ha', hs, htext, rfl⟩ := exists_text_of_transform hcode hexport h
  obtain rfl : a = a' := Except.ok.inj (ha.symm.trans ha')
  obtain ⟨line, rfl⟩ := exists_line_of_text hlibrary htext
  -- the activation ends with a statement that exports the component, and the injection behind it
  have hassoc (p q k x c e i n r : Text) :
      p ++ (q ++ (k ++ x ++ (c ++ e)) ++ i ++ n) ++ r =
        p ++ q ++ k ++ x ++ c ++ (e ++ i ++ n ++ r) := by
    simp only [List.append_assoc]
  have hout : s.before ++ (line ++ ';' :: " \x7d" ++ Activation.exportOf s.component ++
      a.injection ++ "\n") ++ s.after = s.before ++ (line ++ ';' :: " \x7d") ++
        "\nexport default " ++ s.component ++ ";" ++ ("\n" ++ a.injection ++ "\n" ++ s.after) := by
    rw [exportOf_eq]
    exact hassoc _ _ _ _ _ _ _ _ _
  -- this statement is the last one of the output: nothing behind it has the keyword, since the
  -- activation is quiet and nothing behind the statement in the code has it either
  have hlast : lastExport? (s.before ++ (line ++ ';' :: " \x7d") ++ "\nexport default " ++
      s.component ++ ";" ++ ("\n" ++ a.injection ++ "\n" ++ s.after)) =
      some ⟨s.before ++ line ++ ';' :: " \x7d", true, s.component,
        "\n" ++ a.injection ++ "\n" ++ s.after⟩ := by
    rw [← List.append_assoc s.before, ← code_exportOf]
    exact lastExport?_eq_some_iff.mpr (isLastExport_of_lead (s.before ++ line) (by decide)
      (by decide) hs.component_piece (not_hasExport_behind hquiet hs.last))
  refine ⟨s, line ++ ';' :: " \x7d", hs, hout, fun render => ?_⟩
  rw [hout, splice, hlast, List.append_assoc s.before]

/-- Code with styles and two exports, the last of which ends a line. -/
def twiceExported : Text :=
  "export default A;\nfunction add_css() \x7b\n\tstyle.id = 's-a9';\n\x7d\nexport default B\n;//"

/-- The component, with exports in its id and in the name of the adapter. -/
def twiceExportedComponent : Component where
  id := .str "export default C;"
  code := .str twiceExported
  hotOptions := .map [(.str "import_adapter_name", .str "D;\n\x00component\x00; export default E")]

theorem splice_transform_twiceExported :
    ∃ a out s line,
      (Transformer.activation {} twiceExportedComponent twiceExported).result = .ok a ∧
      (Transformer.transform {} (.empty []) twiceExportedComponent).result = .ok out ∧
      IsLastExport twiceExported s ∧
      out = s.before ++ line ++ "\nexport default " ++ s.component ++ ";" ++
        ("\n" ++ a.injection ++ "\n" ++ s.after) ∧
      ∀ render : Text → Run Text, splice out render = do
        let text ← render s.component
        return s.before ++ line ++ text ++ ("\n" ++ a.injection ++ "\n" ++ s.after) := by
  have hok : (Transformer.transform {} (.empty []) twiceExportedComponent).result.toOption.any
      (fun _ => true) = true := by
    decide +kernel
  have hstyle : (Transformer.activation {} twiceExportedComponent twiceExported).result.toOption.any
      (fun a => decide (¬ exportKeyword <:+: codeLiteral a.cssId false)) = true := by
    decide +kernel
  have hexport : HasExport twiceExported := ⟨[], "A", _, by rfl⟩
  obtain ⟨out, hout, -⟩ := exists_eq_ok_of_any hok
  obtain ⟨a, ha, hkeyword⟩ := exists_eq_ok_of_any hstyle
  obtain ⟨s, line, hs, hcode, hsplice⟩ :=
    splice_of_transform rfl rfl hexport ha (fun _ _ => of_decide_eq_true hkeyword) hout
  exact ⟨a, out, s, line, ha, hout, hs, hcode, hsplice⟩

end HotReload
