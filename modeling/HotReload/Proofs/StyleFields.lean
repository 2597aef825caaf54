import HotReload.Proofs.Reexport
import HotReload.Proofs.StylesheetPlace
/-!
What the code of an activation tells of the stylesheet of its component, in three places: the id and
the hash of everything else in the call, and the statement behind the export.

* `exists_fields_of_text`: with the built-in template, the two fields and the statement end an
  activation, whatever else it is made of.
* `Stylesheet.ofCode_cases`: there is no stylesheet, one without an id, or one with an id.
* `StylesAgree` says how the three places belong together, `stylesAgree_ofCode` that they do.
* `stylesAgree_of_transform`: they do in the code of every component.
-/

namespace HotReload

open ActivationFacts (fieldLine indented textIf)
open Transformer (ofText?)

/-! ### The fields in the code -/

/-- The lines of the template from the id of the stylesheet on. -/
def styleLines (cssId hash : Text) (isVite : Bool) : List (Text × Text) :=
  [indented "    " (fieldLine "cssId" cssId), indented "    " (fieldLine "nonCssHash" hash)] ++
    closingLines isVite

lemma isIndented_styleLines {cssId hash : Text} (hcssId : '\n' ∉ cssId) (hhash : '\n' ∉ hash)
    (isVite : Bool) : ∀ line ∈ styleLines cssId hash isVite, Text.IsIndented line := by
  have hindent : ("    " : Text).all (· == ' ') = true := by decide
  refine List.forall_mem_append.mpr ⟨?_, isIndented_closingLines isVite⟩
  exact List.forall_mem_cons.mpr
    ⟨⟨hindent, ActivationFacts.isTrimmed_fieldLine (by decide) hcssId⟩,
      List.forall_mem_singleton.mpr
        ⟨hindent, ActivationFacts.isTrimmed_fieldLine (by decide) hhash⟩⟩

namespace Activation

variable {a : Activation}

/-- The id of the stylesheet as a literal: without one, the literal tells whether there is a
function that adds a stylesheet. -/
def cssIdLiteral (a : Activation) : Text := codeLiteral a.cssId a.hasAddCss.isTruthy

/-- The hash of everything but the styles, as a literal. -/
def hashLiteral (a : Activation) : Text := codeLiteral a.nonCssHash false

/-- Whatever the other names stand for, the template prints these lines last, and a comma at the end
of the line before them. -/
lemma exists_styleLines {text : Text} (hcssId : a.cssId.literalExcess? = none)
    (hhash : a.nonCssHash.literalExcess? = none)
    (h : renderNodes (activationScope a) activationNodes = .ok text) :
    ∃ front, text = front ++ ',' :: '\n' ::
      (styleLines a.cssIdLiteral a.hashLiteral a.compatVite.isTruthy).flatMap
        fun line => line.1 ++ line.2 ++ ['\n'] := by
  have hid : (literalNode "css_id" [(some "null", .name "has_add_css")]).render
      (activationScope a) = .ok a.cssIdLiteral :=
    render_literal_null (find_activationScope a (by decide) rfl)
      (find_activationScope a (by decide) rfl) hcssId
  have hother : (literalNode "non_css_hash" []).render (activationScope a) =
      .ok a.hashLiteral := by
    rw [literalNode, render_literal (find_activationScope a (v := a.nonCssHash) (by decide) rfl),
      hhash, printable, hashLiteral]
  have hfields : renderNodes (activationScope a) ((activationNodes.drop 20).take 4) =
      .ok [nextField "cssId", a.cssIdLiteral, nextField "nonCssHash", a.hashLiteral].flatten :=
    renderNodes_of_forall₂ <| .cons (render_text _) <| .cons hid <| .cons (render_text _) <|
      .cons hother .nil
  have hnodes : activationNodes = activationNodes.take 20 ++
      ((activationNodes.drop 20).take 4 ++ activationNodes.drop 24) := rfl
  rw [hnodes] at h
  obtain ⟨front, back, -, hback, rfl⟩ := exists_renderNodes_append h
  obtain ⟨fields, closing, hprinted, hclosing, rfl⟩ := exists_renderNodes_append hback
  refine ⟨front, congrArg (front ++ ·) ?_⟩
  rw [← Except.ok.inj (hfields.symm.trans hprinted),
    ← Except.ok.inj ((renderNodes_closingNodes a).symm.trans hclosing)]
  simp [styleLines, nextField, indented, fieldLine]

end Activation

/-- A plain line stays as it is when the component takes the place of the slot. -/
lemma replace_of_isPlain {line : Text} (h : IsPlain line) (x : Text) :
    Text.replace Activation.slot x line = line :=
  Text.replace_of_not_infix x (ActivationFacts.isInert_of_isPlain h).slot

lemma isPlain_closingLines (isVite : Bool) :
    ∀ line ∈ (closingLines isVite).map Prod.snd, IsPlain line := by
  cases isVite <;> decide

lemma replace_styleLines {cssId hash : Text} (hcssId : IsPlain cssId) (hhash : IsPlain hash)
    (isVite : Bool) (x : Text) :
    ((styleLines cssId hash isVite).map Prod.snd).map (Text.replace Activation.slot x) =
      (styleLines cssId hash isVite).map Prod.snd := by
  have hclosing : ((closingLines isVite).map Prod.snd).map (Text.replace Activation.slot x) =
      (closingLines isVite).map Prod.snd :=
    (List.map_congr_left fun line hline =>
      replace_of_isPlain (isPlain_closingLines isVite line hline) x).trans (List.map_id _)
  rw [styleLines, List.map_append, List.map_append, hclosing]
  simp only [List.map_cons, List.map_nil, indented]
  rw [ActivationFacts.replace_fieldLine x (by decide), replace_of_isPlain hcssId,
    ActivationFacts.replace_fieldLine x (by decide), replace_of_isPlain hhash]

lemma join_styleLines (cssId hash : Text) (isVite : Bool) :
    Text.join [' '] ((styleLines cssId hash isVite).map Prod.snd) =
      "cssId: " ++ cssId ++ ", nonCssHash: " ++ hash ++ ", \x7d); " ++
        textIf isVite "import.meta.hot.accept(); " ++ "\x7d" := by
  cases isVite <;>
    simp [styleLines, closingLines, indented, fieldLine, textIf, Text.join]

variable {t : Transformer} {disk : Disk} {component : Component} {code : Text} {a : Activation}

/-- With the template that is built in, an activation ends with the two fields of the stylesheet,
the export and the statement that adds the stylesheet, whatever else it is made of. -/
theorem exists_fields_of_text {library : TemplateLibrary} {x out : Text}
    (hlibrary : library.origin? disk activationTemplate = some (.builtIn activationText))
    (hcssId : a.cssId.literalExcess? = none) (hhash : a.nonCssHash.literalExcess? = none)
    (h : a.text library disk x = .ok out) :
    ∃ lead, out = lead ++ ("cssId: " ++ a.cssIdLiteral ++ ", nonCssHash: " ++ a.hashLiteral ++
      ", \x7d); " ++ textIf a.compatVite.isTruthy "import.meta.hot.accept(); " ++ "\x7d") ++
      Activation.exportOf x ++ a.injection ++ "\n" := by
  obtain ⟨text, htext, rfl⟩ := Activation.exists_renderWith h
  have hrender := Activation.renderTemplate_of_renderWith
    (template_of_builtIn hlibrary (readTemplate_activationText _))
    (Activation.bindingsWith_slotBindings a) htext
  obtain ⟨front, rfl⟩ := Activation.exists_styleLines hcssId hhash (mapError_eq_ok.mp hrender)
  have hidPlain : IsPlain a.cssIdLiteral := isPlain_codeLiteral _ _
  have hhashPlain : IsPlain a.hashLiteral := isPlain_codeLiteral _ _
  have hindented := isIndented_styleLines
    (ActivationFacts.isInert_of_isPlain hidPlain).newline
    (ActivationFacts.isInert_of_isPlain hhashPlain).newline a.compatVite.isTruthy
  rw [List.append_cons, Text.flatten_eq_join, Text.keptLines_append_cons,
    Text.keptLines_lines hindented, Text.replace_join ActivationFacts.slot_ne_nil x (by decide),
    List.map_append, replace_styleLines hidPlain hhashPlain,
    Text.join_append _ _ (by simp [styleLines]), join_styleLines, ← List.append_assoc]
  exact ⟨_, rfl⟩

/-! ### The three places -/

/-- The statement that adds the stylesheet, unless an element has the id of the literal. -/
def addition (literal : Text) : Text :=
  "\nif (typeof add_css !== 'undefined' && !document.getElementById(" ++ literal ++ ")) add_css();"

lemma addition_ne_nil (literal : Text) : addition literal ≠ [] :=
  List.cons_ne_nil _ _

lemma Activation.injection_eq (a : Activation) :
    a.injection = textIf (a.injectCss.isTruthy && a.cssId.isTruthy)
      (addition (codeLiteral a.cssId false)) := rfl

lemma textIf_null (condition : Bool) (text : Text) :
    textIf (condition && Value.null.isTruthy) text = [] := by
  cases condition <;> rfl

/-- The literal of a text begins with a quote. -/
lemma exists_codeLiteral_text (text : Text) (null : Bool) :
    ∃ rest, codeLiteral (.str text) null = '"' :: rest := ⟨_, rfl⟩

lemma codeLiteral_text_ne {word : Text} (h : word.head? ≠ some '"') (text : Text) (null : Bool) :
    codeLiteral (.str text) null ≠ word := by
  obtain ⟨rest, hrest⟩ := exists_codeLiteral_text text null
  rw [hrest]
  rintro rfl
  exact h rfl

lemma undefined_ne_codeLiteral_text :
    ¬ ∃ text, ("undefined" : Text) = codeLiteral (.str text) false := by
  rintro ⟨text, htext⟩
  exact codeLiteral_text_ne (by decide) text false htext.symm

/-- A stylesheet with an id: the function, and the id that it assigns first. -/
def HasStyleId (code : Text) (cut : StylesheetCut) (id : Text) : Prop :=
  IsStylesheetCut code cut ∧ IsFirstId cut.body id

/-- A stylesheet that assigns no id. -/
def LacksStyleId (code : Text) : Prop :=
  ∃ cut, IsStylesheetCut code cut ∧ ∀ id, ¬ IsFirstId cut.body id

lemma HasStyleId.unique {code : Text} {cut cut' : StylesheetCut} {id id' : Text}
    (h : HasStyleId code cut id) (h' : HasStyleId code cut' id') : cut = cut' ∧ id = id' := by
  obtain rfl := h.1.unique h'.1
  rw [HasStyleId, ← styleId?_eq_some_iff] at h h'
  exact ⟨rfl, Option.some.inj (h.2.symm.trans h'.2)⟩

/-- There is no stylesheet, one without an id, or one with an id. -/
theorem Stylesheet.ofCode_cases (code : Text) (withHash : Bool) :
    (¬ HasStylesheet code ∧ Stylesheet.ofCode code withHash = .none) ∨
      (LacksStyleId code ∧ Stylesheet.ofCode code withHash = ⟨.none, .none, true⟩) ∨
      ∃ cut id, HasStyleId code cut id ∧ Stylesheet.ofCode code withHash =
        ⟨some id, if withHash && !id.isEmpty then some (HotReload.nonCssHash cut.remainder id)
            else .none,
          true⟩ := by
  rw [Stylesheet.ofCode]
  rcases cutStylesheet_cases code with ⟨hnone, hno⟩ | ⟨cut, hcut, hstylesheet⟩
  · exact .inl ⟨hno, by rw [hnone]⟩
  · rw [hcut]
    cases hid : styleId? cut.body with
    | none =>
        refine .inr (.inl ⟨⟨cut, hstylesheet, fun id hfirst => ?_⟩, by simp only [hid]⟩)
        rw [← styleId?_eq_some_iff, hid] at hfirst
        exact absurd hfirst (by simp)
    | some id =>
        have hfirst : IsFirstId cut.body id := styleId?_eq_some_iff.mp hid
        exact .inr (.inr ⟨cut, id, ⟨hstylesheet, hfirst⟩, by simp only [hid]⟩)

/-- How the literals of the id and of the hash belong together with what is added behind the
export, for some code and styles that are injected or not. -/
structure StylesAgree (code : Text) (inject : Bool) (cssId hash added : Text) : Prop where
  /-- The literal of the id is undefined just if there is no stylesheet. -/
  undefined_iff : cssId = "undefined" ↔ ¬ HasStylesheet code
  /-- It is null just if there is a stylesheet that assigns no id. -/
  null_iff : cssId = "null" ↔ LacksStyleId code
  /-- Otherwise it is that of the id. -/
  literal : ∀ cut id, HasStyleId code cut id → cssId = codeLiteral (.str id) false
  /-- The literal of the hash is one of a text just if a statement is added. -/
  text_iff : (∃ text, hash = codeLiteral (.str text) false) ↔ added ≠ []
  /-- A statement is added just if styles are injected and the id is not empty. -/
  added_iff : added ≠ [] ↔ inject = true ∧ ∃ cut id, HasStyleId code cut id ∧ id ≠ []
  /-- Without the statement there is no hash. -/
  undefined : added = [] → hash = "undefined"
  /-- The statement tests the same literal. -/
  tests : added ≠ [] → added = addition cssId
  /-- The hash is that of the code around the stylesheet. -/
  hashes : ∀ cut id, HasStyleId code cut id → added ≠ [] →
    hash = codeLiteral (.str (nonCssHash cut.remainder id)) false

/-- Without an id nothing is added, and there is no hash. -/
lemma stylesAgree_of_none {code cssId : Text} {inject : Bool} {added : Text} (hadded : added = [])
    (hundefined : cssId = "undefined" ↔ ¬ HasStylesheet code)
    (hnull : cssId = "null" ↔ LacksStyleId code) (hno : ∀ cut id, ¬ HasStyleId code cut id) :
    StylesAgree code inject cssId "undefined" added where
  undefined_iff := hundefined
  null_iff := hnull
  literal := fun cut id h => absurd h (hno cut id)
  text_iff := iff_of_false undefined_ne_codeLiteral_text (fun h => h hadded)
  added_iff := iff_of_false (fun h => h hadded) (fun ⟨_, cut, id, h, _⟩ => hno cut id h)
  undefined := fun _ => rfl
  tests := fun h => absurd hadded h
  hashes := fun cut id h => absurd h (hno cut id)

/-- With an id, the one condition decides about the hash and the statement. -/
lemma stylesAgree_of_id {code : Text} {cut : StylesheetCut} {id : Text} (inject : Bool)
    (hid : HasStyleId code cut id) :
    StylesAgree code inject (codeLiteral (.str id) false)
      (if inject && !id.isEmpty then codeLiteral (.str (nonCssHash cut.remainder id)) false
        else "undefined")
      (textIf (inject && !id.isEmpty) (addition (codeLiteral (.str id) false))) := by
  have hcondition : (inject && !id.isEmpty) = true ↔
      inject = true ∧ ∃ cut id, HasStyleId code cut id ∧ id ≠ [] := by
    rw [Bool.and_eq_true, Bool.not_eq_true', ← Bool.not_eq_true, List.isEmpty_iff]
    -- each part follows from the condition, as a stylesheet has one id only
    refine and_congr_right fun _ => ⟨fun h => ⟨cut, id, hid, h⟩, ?_⟩
    rintro ⟨cut', id', hid', h⟩
    exact (hid.unique hid').2 ▸ h
  have hadded : textIf (inject && !id.isEmpty) (addition (codeLiteral (.str id) false)) ≠ [] ↔
      (inject && !id.isEmpty) = true := by
    rw [textIf]
    split
    · next h => exact iff_of_true (addition_ne_nil _) h
    · next h => exact iff_of_false (fun hne => hne rfl) h
  refine
    { undefined_iff := iff_of_false (codeLiteral_text_ne (by decide) id false)
        fun h => h hid.1.hasStylesheet
      null_iff := iff_of_false (codeLiteral_text_ne (by decide) id false) ?_
      literal := fun cut' id' hid' => by rw [(hid.unique hid').2]
      text_iff := ?_
      added_iff := hadded.trans hcondition
      undefined := fun h => if_neg (mt hadded.mpr (not_not.mpr h))
      tests := fun h => if_pos (hadded.mp h)
      hashes := ?_ }
  · rintro ⟨cut', hcut', hno⟩
    exact hno id (hid.1.unique hcut' ▸ hid.2)
  · rw [hadded]
    split
    · next h => exact iff_of_true ⟨_, rfl⟩ h
    · next h => exact iff_of_false undefined_ne_codeLiteral_text h
  · rintro cut' id' hid' h
    obtain ⟨rfl, rfl⟩ := hid.unique hid'
    exact if_pos (hadded.mp h)

/-- The id and the hash of a stylesheet, read apart from each other, agree with the condition under
which it is added. -/
theorem stylesAgree_ofCode {code : Text} {inject : Value} {a : Activation} {sheet : Stylesheet}
    (hsheet : Stylesheet.ofCode code inject.isTruthy = sheet)
    (hcssId : a.cssId = ofText? sheet.cssId) (hhash : a.nonCssHash = ofText? sheet.nonCssHash)
    (hhas : a.hasAddCss = .bool sheet.hasAddCss) (hinject : a.injectCss = inject) :
    StylesAgree code inject.isTruthy a.cssIdLiteral a.hashLiteral a.injection := by
  rw [Activation.cssIdLiteral, Activation.hashLiteral, Activation.injection_eq, hcssId, hhash, hhas,
    hinject]
  rcases Stylesheet.ofCode_cases code inject.isTruthy with
    ⟨hno, hcode⟩ | ⟨hlacks, hcode⟩ | ⟨cut, id, hid, hcode⟩ <;>
    obtain rfl := hcode.symm.trans hsheet
  · -- no stylesheet
    exact stylesAgree_of_none (textIf_null _ _) (iff_of_true rfl hno)
      (iff_of_false (by decide) fun ⟨_, h, _⟩ => hno h.hasStylesheet)
      fun _ _ h => hno h.1.hasStylesheet
  · -- a stylesheet without an id
    obtain ⟨cut, hcut, hnoFirst⟩ := hlacks
    refine stylesAgree_of_none (textIf_null _ _)
      (iff_of_false (by decide) fun h => h hcut.hasStylesheet)
      (iff_of_true rfl ⟨cut, hcut, hnoFirst⟩) ?_
    rintro cut' id ⟨hcut', hid⟩
    obtain rfl := hcut.unique hcut'
    exact hnoFirst id hid
  -- a stylesheet with an id: the literal of the hash is decided by the same condition
  · have hhash : codeLiteral (ofText? (if inject.isTruthy && !id.isEmpty then
          some (nonCssHash cut.remainder id) else none)) false =
        if inject.isTruthy && !id.isEmpty then
          codeLiteral (.str (nonCssHash cut.remainder id)) false else "undefined" := by
      split <;> rfl
    rw [hhash]
    exact stylesAgree_of_id _ hid

/-! ### Components -/

/-- **The stylesheet in the code of a component**. When a component with an export is made hot with
the template that is built in, the code in the place of the export ends with the literals of the
id and of the hash, the export, and what is added behind it; and the three agree with each
other and with the code, whatever values the component, its options and its transformer have. -/
theorem stylesAgree_of_transform {out : Text}
    (hlibrary : t.library.origin? disk activationTemplate = some (.builtIn activationText))
    (hcode : component.code = .str code) (hexport : HasExport code)
    (h : (t.transform disk component).result = .ok out) :
    ∃ s options lead cssId hash added, IsLastExport code s ∧
      (t.defaults.resolve component.hotOptions component.source).result = .ok options ∧
      out = s.before ++ (lead ++ ("cssId: " ++ cssId ++ ", nonCssHash: " ++ hash ++ ", \x7d); " ++
        textIf (options.get .compatVite).isTruthy "import.meta.hot.accept(); " ++ "\x7d") ++
        Activation.exportOf s.component ++ added ++ "\n") ++ s.after ∧
      StylesAgree code (options.get .injectCss).isTruthy cssId hash added := by
  obtain ⟨a, s, text, ha, hs, htext, rfl⟩ := exists_text_of_transform hcode hexport h
  obtain ⟨options, metadata, imports, sheet, hoptions, -, -, hsheet, rfl⟩ :=
    exists_activation_eq ha
  obtain ⟨lead, rfl⟩ := exists_fields_of_text hlibrary
    (ActivationFacts.literalExcess?_ofText? sheet.cssId)
    (ActivationFacts.literalExcess?_ofText? sheet.nonCssHash) htext
  exact ⟨s, options, lead, _, _, _, hs, hoptions, rfl,
    stylesAgree_ofCode hsheet.symm rfl rfl rfl rfl⟩

/-- A component with styles, whose options ask for them with a value that is no truth value. -/
def injectedComponent : Component where
  id := .str "a\", cssId: null"
  code := .str twiceExported
  hotOptions := .map [(.str "inject_css", .str "no"), (.str "import_adapter_name", .int 7)]

theorem stylesAgree_injectedComponent :
    ∃ out s options lead cssId hash added,
      (Transformer.transform {} (.empty []) injectedComponent).result = .ok out ∧
      IsLastExport twiceExported s ∧
      (HotOptions.default.resolve injectedComponent.hotOptions injectedComponent.source).result =
        .ok options ∧
      out = s.before ++ (lead ++ ("cssId: " ++ cssId ++ ", nonCssHash: " ++ hash ++ ", \x7d); " ++
        textIf (options.get .compatVite).isTruthy "import.meta.hot.accept(); " ++ "\x7d") ++
        Activation.exportOf s.component ++ added ++ "\n") ++ s.after ∧
      StylesAgree twiceExported (options.get .injectCss).isTruthy cssId hash added := by
  have hok : (Transformer.transform {} (.empty []) injectedComponent).result.toOption.any
      (fun _ => true) = true := by
    decide +kernel
  have hexport : HasExport twiceExported := ⟨[], "A", _, by rfl⟩
  obtain ⟨out, hout, -⟩ := exists_eq_ok_of_any hok
  obtain ⟨s, options, lead, cssId, hash, added, hagree⟩ :=
    stylesAgree_of_transform rfl rfl hexport hout
  exact ⟨out, s, options, lead, cssId, hash, added, hout, hagree⟩

end HotReload
