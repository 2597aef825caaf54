import HotReload.Proofs.Activation
import HotReload.Proofs.LastExport
/-!
Components that are made hot with the activation template that is built in.

* `exists_text_of_transform`, `eq_code_of_transform`: with any templates, the text of an activation
  stands in the place of the last export statement, if there is one.
* `exists_activation_eq`: what an activation is made of.
* `ActivationFacts.Describes`: the facts are those that a transformer reads for a component.
* `transform_of_builtIn_template` spells out the code of the component, character by character.
-/

namespace HotReload

/-- The facts are those that the transformer reads for the component, whose code is `code`. -/
structure ActivationFacts.Describes (f : ActivationFacts) (t : Transformer) (component : Component)
    (code : Text) : Prop where
  id : f.id = component.id
  options : (t.defaults.resolve component.hotOptions component.source).result = .ok f.options
  metadata : (readMetadata t.walk component.compiled).result = .ok f.metadata
  imports :
    (specifiersFor t.runtimeDirectory f.options t.hotApi t.adapter).result = .ok f.imports
  sheet : f.sheet = Stylesheet.ofCode code (f.options.get .injectCss).isTruthy
  compileOptions : f.compileOptions = component.compileOptions
  handle : t.handle = .str f.handle
  adapterName : f.options.get .importAdapterName = .str f.adapterName

variable {t : Transformer} {disk : Disk} {component : Component} {code : Text}

/-- The code of a component is spliced with the text of its activation. -/
lemma exists_splice_of_transform {out : Text} (hcode : component.code = .str code)
    (h : (t.transform disk component).result = .ok out) :
    ∃ a, (t.activation component code).result = .ok a ∧
      (splice code fun name => Run.ofExcept (a.text t.library disk name)).result = .ok out := by
  rw [Transformer.transform] at h
  obtain ⟨code', hread, hrest⟩ := Run.bind_eq_ok.mp h
  obtain ⟨a, hactivation, hreport⟩ := Run.bind_eq_ok.mp hrest
  obtain ⟨-, -, hsplice⟩ := Run.bind_eq_ok.mp hreport
  rw [Transformer.codeOf, hcode] at hread
  obtain rfl : code = code' := Except.ok.inj hread
  exact ⟨a, hactivation, hsplice⟩

/-- The code of a component that is made hot has the text of an activation in the place of the
last statement. -/
lemma exists_text_of_transform {out : Text} (hcode : component.code = .str code)
    (hexport : HasExport code) (h : (t.transform disk component).result = .ok out) :
    ∃ a s text, (t.activation component code).result = .ok a ∧ IsLastExport code s ∧
      a.text t.library disk s.component = .ok text ∧ out = s.before ++ text ++ s.after := by
  obtain ⟨s, hs⟩ := exists_isLastExport hexport
  obtain ⟨a, ha, hsplice⟩ := exists_splice_of_transform hcode h
  rw [splice, lastExport?_eq_some_iff.mpr hs] at hsplice
  obtain ⟨text, htext, hout⟩ := Run.bind_eq_ok.mp hsplice
  exact ⟨a, s, text, ha, hs, htext, (Except.ok.inj hout).symm⟩

/-- Code without a statement stays as it is. -/
lemma eq_code_of_transform {out : Text} (hcode : component.code = .str code)
    (hexport : ¬ HasExport code) (h : (t.transform disk component).result = .ok out) :
    out = code := by
  obtain ⟨a, -, hsplice⟩ := exists_splice_of_transform hcode h
  rw [splice, lastExport?_eq_none hexport] at hsplice
  obtain ⟨-, -, hout⟩ := Run.bind_eq_ok.mp hsplice
  exact (Except.ok.inj hout).symm

/-- An activation is made of what is read for its component, step by step. -/
lemma exists_activation_eq {a : Activation} (h : (t.activation component code).result = .ok a) :
    ∃ options metadata imports sheet,
      (t.defaults.resolve component.hotOptions component.source).result = .ok options ∧
      (readMetadata t.walk component.compiled).result = .ok metadata ∧
      (specifiersFor t.runtimeDirectory options t.hotApi t.adapter).result = .ok imports ∧
      sheet = Stylesheet.ofCode code (options.get .injectCss).isTruthy ∧
      a =
        { id := component.id
          hotApi := .str imports.hotApi
          adapter := .str imports.adapter
          adapterName := options.get .importAdapterName
          hotOptions := .str options.toJson
          compileData := .str (jsonLiteral (metadata.elim .null fun data => .map data.toMapping))
          compileOptions := .str (codeLiteral component.compileOptions false)
          cssId := Transformer.ofText? sheet.cssId
          nonCssHash := Transformer.ofText? sheet.nonCssHash
          hasAddCss := .bool sheet.hasAddCss
          injectCss := options.get .injectCss
          compatVite := options.get .compatVite
          handle := t.handle } := by
  rw [Transformer.activation] at h
  obtain ⟨options, hoptions, h⟩ := Run.bind_eq_ok.mp h
  obtain ⟨metadata, hmetadata, h⟩ := Run.bind_eq_ok.mp h
  obtain ⟨imports, himports, h⟩ := Run.bind_eq_ok.mp h
  obtain ⟨sheet, hsheet, h⟩ := Run.bind_eq_ok.mp h
  obtain ⟨hotOptions, hhotOptions, h⟩ := Run.bind_eq_ok.mp h
  obtain ⟨compileData, hcompileData, h⟩ := Run.bind_eq_ok.mp h
  obtain ⟨compileOptions, hcompileOptions, h⟩ := Run.bind_eq_ok.mp h
  -- a literal that is there is not too large, and so it is the literal of its value
  obtain rfl := (unlessExcess_eq_ok.mp hhotOptions).2
  obtain rfl := (unlessExcess_eq_ok.mp hcompileData).2
  obtain rfl := (unlessExcess_eq_ok.mp hcompileOptions).2
  rw [result_readStylesheet] at hsheet
  refine ⟨options, metadata, imports, sheet, hoptions, hmetadata, himports,
    (Except.ok.inj hsheet).symm, ?_⟩
  rw [← Except.ok.inj h]
  cases metadata <;> rfl

/-- The activation of a component is made of the facts about it. -/
lemma exists_describes {a : Activation} {handle name : Text} {options : HotOptions}
    (hhandle : t.handle = .str handle)
    (hoptions : (t.defaults.resolve component.hotOptions component.source).result = .ok options)
    (hname : options.get .importAdapterName = .str name)
    (h : (t.activation component code).result = .ok a) :
    ∃ f : ActivationFacts, f.Describes t component code ∧ a = f.activation ∧ f.handle = handle ∧
      f.adapterName = name := by
  obtain ⟨resolved, metadata, imports, sheet, hresolved, hmetadata, himports, hsheet, rfl⟩ :=
    exists_activation_eq h
  obtain rfl : options = resolved := Except.ok.inj (hoptions.symm.trans hresolved)
  refine ⟨⟨component.id, options, metadata, imports, sheet, component.compileOptions, handle, name⟩,
    ⟨rfl, hoptions, hmetadata, himports, hsheet, rfl, hhandle, hname⟩, ?_, rfl, rfl⟩
  rw [ActivationFacts.activation, hhandle, hname]
  cases metadata <;> rfl

/-- **The transformed code**. A component that is made hot with the template that is built in
keeps its code before and behind the last export statement, and the statement becomes the code
that the facts about the component spell out. The expression for the module and the name of
the adapter must be texts that stay as they are on a line; all else may be any value. -/
theorem transform_of_builtIn_template {handle name out : Text} {options : HotOptions}
    (hlibrary : t.library.origin? disk activationTemplate = some (.builtIn activationText))
    (hcode : component.code = .str code) (hexport : HasExport code)
    (hhandle : t.handle = .str handle) (hhandleInert : ActivationFacts.IsInert handle)
    (hoptions : (t.defaults.resolve component.hotOptions component.source).result = .ok options)
    (hname : options.get .importAdapterName = .str name)
    (hnameInert : ActivationFacts.IsInert name)
    (h : (t.transform disk component).result = .ok out) :
    ∃ s f, IsLastExport code s ∧ ActivationFacts.Describes f t component code ∧
      out = s.before ++ f.code s.component ++ s.after := by
  obtain ⟨s, hs⟩ := exists_isLastExport hexport
  rw [Transformer.transform] at h
  obtain ⟨code', hread, hrest⟩ := Run.bind_eq_ok.mp h
  obtain ⟨a, hactivation, hreport⟩ := Run.bind_eq_ok.mp hrest
  obtain ⟨-, -, hsplice⟩ := Run.bind_eq_ok.mp hreport
  rw [Transformer.codeOf, hcode] at hread
  obtain rfl : code = code' := Except.ok.inj hread
  rw [splice, lastExport?_eq_some_iff.mpr hs] at hsplice
  obtain ⟨text, htext, hout⟩ := Run.bind_eq_ok.mp hsplice
  obtain ⟨f, hf, rfl, rfl, rfl⟩ := exists_describes hhandle hoptions hname hactivation
  refine ⟨s, f, hs, hf, ?_⟩
  rw [← Except.ok.inj hout, ActivationFacts.text_eq_ok hhandleInert hnameInert hlibrary htext]

/-- A component that adds styles, and whose export ends a line. -/
def styledPair : Text :=
  "function add_css() \x7b\n\tstyle.id = 's-a9-style';\n\x7d\nexport default [App,\n Other];\n//"

/-- The component, with a null character and a quote in its id. -/
def styledComponent : Component where
  id := .str "\x00a\"b"
  code := .str styledPair
  hotOptions := .map [(.str "compatVite", .bool true)]

theorem transform_styledComponent :
    ∃ out s f, (Transformer.transform {} (.empty []) styledComponent).result = .ok out ∧
      IsLastExport styledPair s ∧ ActivationFacts.Describes f {} styledComponent styledPair ∧
      out = s.before ++ f.code s.component ++ s.after := by
  have hok : (Transformer.transform {} (.empty []) styledComponent).result.isOk = true := by
    decide +kernel
  have hexport : HasExport styledPair :=
    ⟨"function add_css() \x7b\n\tstyle.id = 's-a9-style';\n\x7d\n", "[App,\n Other]", "\n//", by
      decide⟩
  cases hresult : (Transformer.transform {} (.empty []) styledComponent).result with
  | error failure =>
      rw [hresult] at hok
      exact absurd hok (by simp [Except.isOk, Except.toBool])
  | ok out =>
      obtain ⟨s, f, hs, hf, hout⟩ := @transform_of_builtIn_template {} (.empty []) styledComponent
        styledPair "import.meta" defaultAdapterName out _ rfl rfl hexport rfl
        ⟨by decide, by decide⟩ rfl rfl ⟨by decide, by decide⟩ hresult
      exact ⟨out, s, f, rfl, hs, hf, hout⟩

end HotReload
