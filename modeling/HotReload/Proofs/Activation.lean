import HotReload.Proofs.ActivationTemplate
import HotReload.Proofs.LastExport
import HotReload.Proofs.Lines
import HotReload.Proofs.Literal
import HotReload.Proofs.Runs
import HotReload.Transformer
/-!
What the default export of a component becomes with the activation template that is built in.

* `ActivationFacts` holds what is read for a component, `ActivationFacts.code` spells out the
  code that takes the place of the export.
-/

namespace HotReload

/-! ### Steps -/

/-- A built-in template is read from its text. -/
lemma template_of_builtIn {library : TemplateLibrary} {disk : Disk} {name text : Text}
    {nodes : List TemplateNode} (horigin : library.origin? disk name = some (.builtIn text))
    (hnodes : readTemplate library.characters text = .ok nodes) :
    library.template disk name = .ok nodes := by
  rw [TemplateLibrary.template, horigin]
  exact hnodes

namespace Activation

variable {a : Activation} {library : TemplateLibrary} {disk : Disk}

lemma bindingsWith_slotBindings (a : Activation) :
    a.bindingsWith slotBindings = .ok (slotBindings ++ a.bindings) := rfl

/-- A template is rendered with its names and those of the activation. -/
lemma renderTemplate_of_renderWith {name text : Text} {nodes : List TemplateNode}
    {more bindings : Bindings} (htemplate : library.template disk name = .ok nodes)
    (hbindings : a.bindingsWith more = .ok bindings)
    (h : a.renderWith library disk name more = .ok text) :
    renderTemplate name bindings nodes = .ok text := by
  obtain ⟨nodes', hnodes, hcopied⟩ := bind_eq_ok.mp h
  obtain ⟨-, -, hbound⟩ := bind_eq_ok.mp hcopied
  obtain ⟨bindings', hbindings', hrender⟩ := bind_eq_ok.mp hbound
  rw [htemplate] at hnodes
  rw [hbindings] at hbindings'
  cases hnodes
  cases hbindings'
  exact hrender

/-- The text of an activation is made of what its template prints. -/
lemma exists_renderWith {x out : Text} (h : a.text library disk x = .ok out) :
    ∃ text, a.renderWith library disk activationTemplate slotBindings = .ok text ∧
      out = a.imports ++ ";" ++ Text.replace slot x text.flatten ++ exportOf x ++
        a.injection ++ "\n" := by
  obtain ⟨block, hblock, hout⟩ := bind_eq_ok.mp h
  obtain ⟨text, htext, hflat⟩ := bind_eq_ok.mp hblock
  refine ⟨text, htext, ?_⟩
  rw [← Except.ok.inj hout, ← Except.ok.inj hflat]

end Activation

/-! ### What is read -/

/-- What an activation is made of. -/
structure ActivationFacts where
  id : Value
  options : HotOptions
  metadata : Option CompileMetadata
  imports : Specifiers
  sheet : Stylesheet
  compileOptions : Value
  handle : Text
  adapterName : Text

namespace ActivationFacts

/-- What the runtime is told of the compile result, as a literal. -/
def compileData (f : ActivationFacts) : Text :=
  match f.metadata with
  | none => "null"
  | some data => jsonLiteral (.map data.toMapping)

/-- The id of the stylesheet as a literal: without one, the literal tells whether there is a
function that adds a stylesheet. -/
def cssId (f : ActivationFacts) : Text :=
  codeLiteral (Transformer.ofText? f.sheet.cssId) f.sheet.hasAddCss

/-- The hash of everything but the styles, as a literal. -/
def nonCssHash (f : ActivationFacts) : Text :=
  codeLiteral (Transformer.ofText? f.sheet.nonCssHash) false

/-- Whether the conventions of one bundler hold. -/
def isVite (f : ActivationFacts) : Bool := (f.options.get .compatVite).isTruthy

/-! ### The code -/

/-- A text that is there only under a condition. -/
def textIf (condition : Bool) (text : Text) : Text := if condition then text else []

/-- The fields of the call that activates the component `x`. -/
def fields (f : ActivationFacts) (x : Text) : List (Text × Text) :=
  [("m", f.handle), ("id", codeLiteral f.id false), ("hotOptions", f.options.toJson),
    ("Component", x), ("ProxyAdapter", f.adapterName), ("compileData", f.compileData),
    ("compileOptions", codeLiteral f.compileOptions false), ("cssId", f.cssId),
    ("nonCssHash", f.nonCssHash)]

/-- A field with its name, and what divides it from the next one. -/
def fieldText (label value : Text) : Text := label ++ ": " ++ value ++ ", "

/-- The imports, and the line that activates the component `x`. -/
def line (f : ActivationFacts) (x : Text) : Text :=
  "import * as ___SVELTE_HMR_HOT_API from " ++ codeLiteral (.str f.imports.hotApi) false ++
  ";import " ++ f.adapterName ++ " from " ++ codeLiteral (.str f.imports.adapter) false ++
  ";if (" ++ textIf (!f.isVite) "import.meta && " ++ "import.meta.hot) \x7b " ++
  x ++ " = ___SVELTE_HMR_HOT_API.applyHmr(\x7b " ++
  (f.fields x).flatMap (fun field => fieldText field.1 field.2) ++
  "\x7d); " ++ textIf f.isVite "import.meta.hot.accept(); " ++ "\x7d"

/-- The statement that adds the stylesheet, if styles are injected and it has an id. -/
def injection (f : ActivationFacts) : Text :=
  match f.sheet.cssId with
  | none => []
  | some id =>
      textIf ((f.options.get .injectCss).isTruthy && !id.isEmpty)
        ("\nif (typeof add_css !== 'undefined' && !document.getElementById(" ++
          codeLiteral (.str id) false ++ ")) add_css();")

/-- The code that takes the place of the export of `x`. -/
def code (f : ActivationFacts) (x : Text) : Text :=
  f.line x ++ "\nexport default " ++ x ++ ";\n" ++ f.injection ++ "\n"

/-! ### The activation -/

/-- The activation that these facts make. -/
def activation (f : ActivationFacts) : Activation where
  id := f.id
  hotApi := .str f.imports.hotApi
  adapter := .str f.imports.adapter
  adapterName := .str f.adapterName
  hotOptions := .str f.options.toJson
  compileData := .str f.compileData
  compileOptions := .str (codeLiteral f.compileOptions false)
  cssId := Transformer.ofText? f.sheet.cssId
  nonCssHash := Transformer.ofText? f.sheet.nonCssHash
  hasAddCss := .bool f.sheet.hasAddCss
  injectCss := f.options.get .injectCss
  compatVite := f.options.get .compatVite
  handle := .str f.handle

/-- A field: its name, its value and a comma. -/
def fieldLine (label value : Text) : Text := label ++ ": " ++ value ++ [',']

/-- A line behind its indent. -/
def indented (indent line : Text) : Text × Text := (indent, line)

/-- The lines that the template prints for the component `x`, but for the last one. -/
def openLines (f : ActivationFacts) (x : Text) : List (Text × Text) :=
  [indented [] ("if (" ++ textIf (!f.isVite) "import.meta && " ++ "import.meta.hot) \x7b"),
    indented "  " (x ++ " = " ++ hotApiName ++ ".applyHmr(\x7b")] ++
  (f.fields x).map (fun field => indented "    " (fieldLine field.1 field.2)) ++
  [indented "  " "\x7d);"] ++
  (if f.isVite then [indented "  " "import.meta.hot.accept();"] else [])

/-- The lines that the template prints for the component `x`. -/
def lines (f : ActivationFacts) (x : Text) : List (Text × Text) :=
  f.openLines x ++ [indented [] "\x7d"]

/-- The texts that the nodes of the template print for the component `x`. -/
def texts (f : ActivationFacts) (x : Text) : List Text :=
  ["if (", textIf (!f.isVite) "import.meta && ", "import.meta.hot) \x7b" ++ ['\n'] ++ "  ",
    x, " = ", hotApiName, ".applyHmr(\x7b" ++ ['\n'] ++ "    " ++ "m" ++ ": ", f.handle,
    nextField "id", codeLiteral f.id false, nextField "hotOptions", f.options.toJson,
    nextField "Component", x, nextField "ProxyAdapter", f.adapterName,
    nextField "compileData", f.compileData,
    nextField "compileOptions", codeLiteral f.compileOptions false,
    nextField "cssId", f.cssId, nextField "nonCssHash", f.nonCssHash,
    [','] ++ ['\n'] ++ "  " ++ "\x7d);" ++ ['\n'],
    textIf f.isVite ("  " ++ "import.meta.hot.accept();" ++ ['\n']), "\x7d" ++ ['\n']]

lemma flatten_texts (f : ActivationFacts) (x : Text) :
    (f.texts x).flatten = (f.lines x).flatMap fun line => line.1 ++ line.2 ++ ['\n'] := by
  cases hvite : f.isVite <;>
    simp only [texts, lines, openLines, fields, indented, fieldLine, nextField, textIf, hvite,
      Bool.not_true, Bool.not_false, Bool.false_eq_true, if_true, if_false, List.flatten_cons,
      List.flatten_nil, List.map_cons, List.map_nil, List.flatMap_append, List.flatMap_cons,
      List.flatMap_nil, List.append_assoc, List.append_nil, List.nil_append]

lemma literalExcess?_ofText? (text? : Option Text) :
    (Transformer.ofText? text?).literalExcess? = none := by
  cases text? <;> rfl

/-- Each node prints its text. The literal of the id is the only one that can be too large. -/
lemma forall₂_render_texts (f : ActivationFacts) (hid : f.id.literalExcess? = none) :
    List.Forall₂ (fun node text => node.render (activationScope f.activation) = .ok text)
      activationNodes (f.texts Activation.slot) := by
  have hfind {word : Text} {v : Value} (hword : word ∈ activationNames)
      (hv : (activationScope f.activation).bindings.lookup word = some v) :
      (activationScope f.activation).find word = .value v :=
    find_activationScope f.activation hword hv
  -- each printed name stands for a text, and each literal is of a value that is small
  have hname {word text : Text} (hword : word ∈ activationNames)
      (htext : (activationScope f.activation).bindings.lookup word = some (.str text)) :
      (nameNode word).render (activationScope f.activation) = .ok text :=
    render_text_value (hfind hword htext)
  have hvite : (activationScope f.activation).find "compat_vite" =
      .value (f.options.get .compatVite) := hfind (by decide) rfl
  have hidLiteral : (literalNode "id" []).render (activationScope f.activation) =
      .ok (codeLiteral f.id false) := by
    rw [literalNode, render_literal (hfind (v := f.id) (by decide) rfl), hid, printable]
  have hcssId : (literalNode "css_id" [(some "null", .name "has_add_css")]).render
      (activationScope f.activation) = .ok f.cssId :=
    render_literal_null (hfind (by decide) rfl) (hfind (v := .bool f.sheet.hasAddCss) (by decide) rfl)
      (literalExcess?_ofText? f.sheet.cssId)
  have hhash : (literalNode "non_css_hash" []).render (activationScope f.activation) =
      .ok f.nonCssHash := by
    rw [literalNode, render_literal (hfind (v := Transformer.ofText? f.sheet.nonCssHash)
      (by decide) rfl), literalExcess?_ofText?, printable, nonCssHash]
  -- the nodes in their order: texts, names, literals, and the two conditions
  exact .cons (render_text _) <| .cons (render_condition (eval_negation hvite) _) <|
    .cons (render_text _) <| .cons (hname (by decide) rfl) <|
    .cons (render_text _) <| .cons (hname (by decide) rfl) <|
    .cons (render_text _) <| .cons (hname (by decide) rfl) <|
    .cons (render_text _) <| .cons hidLiteral <|
    .cons (render_text _) <| .cons (hname (by decide) rfl) <|
    .cons (render_text _) <| .cons (hname (by decide) rfl) <|
    .cons (render_text _) <| .cons (hname (by decide) rfl) <|
    .cons (render_text _) <| .cons (hname (by decide) rfl) <|
    .cons (render_text _) <| .cons (hname (by decide) rfl) <|
    .cons (render_text _) <| .cons hcssId <|
    .cons (render_text _) <| .cons hhash <|
    .cons (render_text _) <| .cons (render_condition (by rw [TemplateExpr.eval, hvite]) _) <|
    .cons (render_text _) .nil

/-- The template prints these lines. -/
lemma renderNodes_activationNodes (f : ActivationFacts) (hid : f.id.literalExcess? = none) :
    renderNodes (activationScope f.activation) activationNodes =
      .ok ((f.lines Activation.slot).flatMap fun line => line.1 ++ line.2 ++ ['\n']) := by
  rw [renderNodes_of_forall₂ (f.forall₂_render_texts hid), flatten_texts]

/-! ### On one line -/

/-- A text stays as it is on the line: it ends no line, and the slot does not occur in it. -/
structure IsInert (text : Text) : Prop where
  newline : '\n' ∉ text
  slot : ¬ Activation.slot <:+: text

lemma slot_ne_nil : Activation.slot ≠ [] := by decide

lemma isInert_of_isPlain {text : Text} (h : IsPlain text) : IsInert text where
  newline := fun hmem => absurd (h _ hmem) (by decide)
  slot := fun hslot => absurd (h '\x00' (hslot.subset (by decide))) (by decide)

lemma isInert_codeLiteral (v : Value) (null : Bool) : IsInert (codeLiteral v null) :=
  isInert_of_isPlain (isPlain_codeLiteral v null)

lemma isInert_toJson (options : HotOptions) : IsInert options.toJson :=
  isInert_of_isPlain (isPlain_jsonLiteral _)

lemma isInert_compileData (f : ActivationFacts) : IsInert f.compileData := by
  refine isInert_of_isPlain ?_
  rw [compileData]
  split
  · decide
  · exact isPlain_jsonLiteral _

/-- The names of the fields. -/
def labels : List Text :=
  ["m", "id", "hotOptions", "Component", "ProxyAdapter", "compileData", "compileOptions", "cssId",
    "nonCssHash"]

lemma labels_plain : ∀ label ∈ labels, IsPlain label := by decide

lemma labels_head :
    ∀ label ∈ labels, label ≠ [] ∧ label.head?.any Text.isBlank = false := by decide

lemma label_mem {f : ActivationFacts} {x : Text} {field : Text × Text} (h : field ∈ f.fields x) :
    field.1 ∈ labels :=
  List.mem_map_of_mem (f := Prod.fst) h

variable {f : ActivationFacts} (hhandle : IsInert f.handle) (hname : IsInert f.adapterName)

include hhandle hname

/-- No field ends a line. -/
lemma newline_notMem_of_mem_fields {field : Text × Text} (h : field ∈ f.fields Activation.slot) :
    '\n' ∉ field.2 := by
  simp only [fields, List.mem_cons, List.not_mem_nil, or_false] at h
  rcases h with rfl | rfl | rfl | rfl | rfl | rfl | rfl | rfl | rfl
  · exact hhandle.newline
  · exact (isInert_codeLiteral _ _).newline
  · exact (isInert_toJson _).newline
  · decide
  · exact hname.newline
  · exact f.isInert_compileData.newline
  · exact (isInert_codeLiteral _ _).newline
  · exact (isInert_codeLiteral _ _).newline
  · exact (isInert_codeLiteral _ _).newline

/-- The component takes the place of the slot, and the other fields stay as they are. -/
lemma replace_fields (x : Text) :
    (f.fields Activation.slot).map (fun field =>
      (field.1, Text.replace Activation.slot x field.2)) = f.fields x := by
  have hkeep {text : Text} (h : IsInert text) : Text.replace Activation.slot x text = text :=
    Text.replace_of_not_infix x h.slot
  simp only [fields, List.map_cons, List.map_nil, hkeep hhandle, hkeep hname,
    hkeep (isInert_codeLiteral _ _), hkeep (isInert_toJson _), hkeep f.isInert_compileData,
    Text.replace_self slot_ne_nil, cssId, nonCssHash]

omit hhandle hname

/-- In a field, only the value is replaced in. -/
lemma replace_fieldLine (x : Text) {label : Text} (hlabel : IsPlain label) (value : Text) :
    Text.replace Activation.slot x (fieldLine label value) =
      fieldLine label (Text.replace Activation.slot x value) := by
  have hline (value : Text) :
      fieldLine label value = (label ++ [':']) ++ ' ' :: (value ++ ',' :: []) := by
    simp [fieldLine]
  have hcolon : Text.replace Activation.slot x (label ++ [':']) = label ++ [':'] :=
    Text.replace_of_not_infix x (isInert_of_isPlain (hlabel.append (by decide))).slot
  have hvalue : Text.replace Activation.slot x (value ++ ',' :: []) =
      Text.replace Activation.slot x value ++ ',' :: [] :=
    Text.replace_append_cons slot_ne_nil x (by decide) value []
  rw [hline, hline, Text.replace_append_cons slot_ne_nil x (by decide) (label ++ [':']), hcolon,
    hvalue]

/-- A field is a line that begins and ends with no blank. -/
lemma isTrimmed_fieldLine {label value : Text} (hlabel : label ∈ labels) (hvalue : '\n' ∉ value) :
    Text.IsTrimmed (fieldLine label value) := by
  obtain ⟨hnonempty, hhead⟩ := labels_head label hlabel
  obtain ⟨c, rest, rfl⟩ := List.exists_cons_of_ne_nil hnonempty
  have hnewline : '\n' ∉ c :: rest := fun hmem => absurd (labels_plain _ hlabel _ hmem) (by decide)
  refine ⟨?_, by simp [fieldLine], hhead, ?_⟩
  · simp only [fieldLine, List.mem_append, not_or]
    exact ⟨⟨⟨hnewline, by decide⟩, hvalue⟩, by decide⟩
  · rw [fieldLine, List.getLast?_concat]
    decide

include hhandle hname

lemma isIndented_of_mem_lines : ∀ line ∈ f.lines Activation.slot, Text.IsIndented line := by
  have hguard : Text.IsIndented
      (indented [] ("if (" ++ textIf (!f.isVite) "import.meta && " ++ "import.meta.hot) \x7b")) := by
    cases f.isVite <;> exact ⟨by decide, by decide⟩
  have hcall : Text.IsIndented
      (indented "  " (Activation.slot ++ " = " ++ hotApiName ++ ".applyHmr(\x7b")) :=
    ⟨by decide, by decide⟩
  have hindent : ("    " : Text).all (· == ' ') = true := by decide
  have hfields : ∀ field ∈ f.fields Activation.slot,
      Text.IsIndented (indented "    " (fieldLine field.1 field.2)) := fun field hfield =>
    ⟨hindent, isTrimmed_fieldLine (label_mem hfield)
      (newline_notMem_of_mem_fields hhandle hname hfield)⟩
  have hclose : Text.IsIndented (indented "  " "\x7d);") := ⟨by decide, by decide⟩
  have haccept : ∀ line ∈ (if f.isVite then [indented "  " "import.meta.hot.accept();"] else []),
      Text.IsIndented line := by
    split
    · exact List.forall_mem_singleton.mpr ⟨by decide, by decide⟩
    · exact fun line hline => absurd hline List.not_mem_nil
  have hend : Text.IsIndented (indented [] "\x7d") := ⟨by decide, by decide⟩
  simp only [lines, openLines, List.forall_mem_append, List.forall_mem_cons, List.forall_mem_map,
    List.not_mem_nil, IsEmpty.forall_iff, implies_true, and_true]
  exact ⟨⟨⟨⟨⟨hguard, hcall⟩, hfields⟩, hclose⟩, haccept⟩, hend⟩

/-- The component takes the place of the slot in the lines. -/
lemma replace_lines (x : Text) :
    ((f.lines Activation.slot).map Prod.snd).map (Text.replace Activation.slot x) =
      (f.lines x).map Prod.snd := by
  have hkeep {text : Text} (h : IsPlain text) : Text.replace Activation.slot x text = text :=
    Text.replace_of_not_infix x (isInert_of_isPlain h).slot
  have hguard : Text.replace Activation.slot x
      ("if (" ++ textIf (!f.isVite) "import.meta && " ++ "import.meta.hot) \x7b") =
      "if (" ++ textIf (!f.isVite) "import.meta && " ++ "import.meta.hot) \x7b" := by
    cases f.isVite <;> exact hkeep (by decide)
  -- the slot stands at the front of the call, and a blank behind it
  have hcall : Text.replace Activation.slot x
      (Activation.slot ++ " = " ++ hotApiName ++ ".applyHmr(\x7b") =
      x ++ " = " ++ hotApiName ++ ".applyHmr(\x7b" := by
    have hsplit (text : Text) : text ++ " = " ++ hotApiName ++ ".applyHmr(\x7b" =
        text ++ ' ' :: ("= " ++ hotApiName ++ ".applyHmr(\x7b") := by
      simp only [List.append_assoc]
      rfl
    rw [hsplit, hsplit, Text.replace_append_cons slot_ne_nil x (by decide),
      Text.replace_self slot_ne_nil, hkeep (by decide)]
  have hclose : Text.replace Activation.slot x "\x7d);" = "\x7d);" := hkeep (by decide)
  have hend : Text.replace Activation.slot x "\x7d" = "\x7d" := hkeep (by decide)
  have hfields : ((f.fields Activation.slot).map fun field =>
      Text.replace Activation.slot x (fieldLine field.1 field.2)) =
      (f.fields x).map fun field => fieldLine field.1 field.2 := by
    rw [← replace_fields hhandle hname x, List.map_map]
    refine List.map_congr_left fun field hfield => ?_
    exact replace_fieldLine x (labels_plain _ (label_mem hfield)) field.2
  have haccept : ((if f.isVite then [indented "  " "import.meta.hot.accept();"] else []).map
      Prod.snd).map (Text.replace Activation.slot x) =
      (if f.isVite then [indented "  " "import.meta.hot.accept();"] else []).map Prod.snd := by
    split
    · exact congrArg (· :: []) (hkeep (by decide))
    · rfl
  -- line by line: no other line has the slot in it
  simp only [lines, openLines, List.map_append, List.map_cons, List.map_nil, haccept]
  simp only [List.map_map, indented, Function.comp_def, hguard, hcall, hfields, hclose, hend]

/-- The lines that the template prints make one line, with the component in it. -/
theorem replace_flatten_lines (x : Text) :
    Text.replace Activation.slot x
      (Text.flatten ((f.lines Activation.slot).flatMap fun line => line.1 ++ line.2 ++ ['\n'])) =
      Text.join [' '] ((f.lines x).map Prod.snd) := by
  rw [Text.flatten_lines (isIndented_of_mem_lines hhandle hname),
    Text.replace_join slot_ne_nil x (by decide), replace_lines hhandle hname]

omit hhandle hname

lemma flatMap_openLines (f : ActivationFacts) (x : Text) :
    ((f.openLines x).map Prod.snd).flatMap (· ++ [' ']) =
      "if (" ++ (textIf (!f.isVite) "import.meta && " ++ ("import.meta.hot) \x7b " ++
        (x ++ (" = ___SVELTE_HMR_HOT_API.applyHmr(\x7b " ++
        ((f.fields x).flatMap (fun field => fieldText field.1 field.2) ++
          ("\x7d); " ++ textIf f.isVite "import.meta.hot.accept(); ")))))) := by
  have hfields : (f.fields x).flatMap (fun field => fieldLine field.1 field.2 ++ [' ']) =
      (f.fields x).flatMap fun field => fieldText field.1 field.2 := by
    refine List.flatMap_congr fun field _ => ?_
    rw [fieldLine, fieldText, List.append_assoc]
    rfl
  have hguard : ("import.meta.hot) \x7b " : Text) = "import.meta.hot) \x7b" ++ [' '] := by decide
  have hcall : (" = ___SVELTE_HMR_HOT_API.applyHmr(\x7b " : Text) =
      " = " ++ (hotApiName ++ (".applyHmr(\x7b" ++ [' '])) := by decide
  have hclose : ("\x7d); " : Text) = "\x7d);" ++ [' '] := by decide
  have haccept : ("import.meta.hot.accept(); " : Text) = "import.meta.hot.accept();" ++ [' '] := by
    decide
  rw [← hfields, hguard, hcall, hclose, haccept]
  cases hvite : f.isVite <;>
    simp only [openLines, indented, textIf, hvite, Bool.not_true, Bool.not_false,
      Bool.false_eq_true, if_true, if_false, List.map_append, List.map_cons, List.map_nil,
      List.map_map, List.flatMap_append, List.flatMap_cons, List.flatMap_nil, List.append_assoc,
      List.append_nil, List.nil_append, List.flatMap_map, Function.comp_apply]

/-- The lines make the line that is spelled out. -/
lemma line_eq (f : ActivationFacts) (x : Text) :
    f.line x = f.activation.imports ++ ";" ++ Text.join [' '] ((f.lines x).map Prod.snd) := by
  have himports : f.activation.imports =
      "import * as ___SVELTE_HMR_HOT_API from " ++ codeLiteral (.str f.imports.hotApi) false ++
        ";import " ++ f.adapterName ++ " from " ++ codeLiteral (.str f.imports.adapter) false := rfl
  rw [himports, lines, List.map_append, Text.join_append _ _ (by simp), flatMap_openLines]
  unfold line
  simp only [List.append_assoc]
  rfl

/-! ### The code of the activation -/

lemma injection_eq (f : ActivationFacts) : f.activation.injection = f.injection := by
  rw [Activation.injection, injection]
  cases hid : f.sheet.cssId with
  | none => simp [activation, hid, Transformer.ofText?, Value.isTruthy]
  | some id =>
      have hcssId : f.activation.cssId = .str id := by
        rw [activation, hid, Transformer.ofText?]
      rw [hcssId]
      rfl

/-- An id whose node in the template is printed has a literal. -/
lemma literalExcess?_id {text : Text}
    (h : renderNodes (activationScope f.activation) activationNodes = .ok text) :
    f.id.literalExcess? = none := by
  have hfind : (activationScope f.activation).find "id" = .value f.id :=
    find_activationScope f.activation (by decide) rfl
  have hmem : literalNode "id" [] ∈ activationNodes := by simp [activationNodes]
  obtain ⟨printed, hprinted⟩ := exists_render_of_mem h hmem
  rw [literalNode, render_literal hfind] at hprinted
  cases hexcess : f.id.literalExcess? with
  | none => rfl
  | some excess =>
      rw [hexcess] at hprinted
      exact absurd hprinted (by simp [printable])

variable {library : TemplateLibrary} {disk : Disk}

/-- With the built-in template, what is rendered are the lines. -/
lemma renderWith_eq_ok {text : Text}
    (hlibrary : library.origin? disk activationTemplate = some (.builtIn activationText))
    (h : f.activation.renderWith library disk activationTemplate slotBindings = .ok text) :
    text = (f.lines Activation.slot).flatMap fun line => line.1 ++ line.2 ++ ['\n'] := by
  have hrender := Activation.renderTemplate_of_renderWith
    (template_of_builtIn hlibrary (readTemplate_activationText _))
    (Activation.bindingsWith_slotBindings _) h
  have hnodes : renderNodes (activationScope f.activation) activationNodes = .ok text :=
    mapError_eq_ok.mp hrender
  exact Except.ok.inj (hnodes.symm.trans
    (f.renderNodes_activationNodes (literalExcess?_id hnodes)))

include hhandle hname

/-- The text of the activation is the code that is spelled out. -/
theorem text_eq_ok {x out : Text}
    (hlibrary : library.origin? disk activationTemplate = some (.builtIn activationText))
    (h : f.activation.text library disk x = .ok out) : out = f.code x := by
  obtain ⟨text, htext, rfl⟩ := Activation.exists_renderWith h
  have htext : text = (f.lines Activation.slot).flatMap
      fun line => line.1 ++ line.2 ++ ['\n'] := renderWith_eq_ok hlibrary htext
  have hassoc (a b c d : Text) : a ++ (b ++ c ++ d) = a ++ b ++ c ++ d := by
    simp only [List.append_assoc]
  have hexport (head : Text) :
      head ++ Activation.exportOf x = head ++ "\nexport default " ++ x ++ ";\n" :=
    hassoc head _ x _
  rw [htext, replace_flatten_lines hhandle hname, injection_eq, code, line_eq, hexport]

end ActivationFacts

end HotReload
