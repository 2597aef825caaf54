import HotReload.Activation
import HotReload.Compile.Metadata
import HotReload.Specifiers
import HotReload.Splice
import HotReload.Stylesheet
/-!
Transformers: from the compiled code of a component to code that can be hot-reloaded.

* `Transformer` holds what is the same for all components, `Component` what is given for
  one. `Installation` is what transformers are built on.
* `Transformer.activation` gathers what is known of a component.
* `Transformer.transform` puts the activation in the place of the default export.
-/

namespace HotReload

/-- What is the same for all components. -/
structure Transformer where
  walk : Walker := nodesOf
  /-- The expression for the metadata of the module. -/
  handle : Value := "import.meta"
  /-- The hot API module, if it is not the one of the runtime. -/
  hotApi : Value := .null
  /-- The adapter module, if it does not go by the platform. -/
  adapter : Value := .null
  /-- The options that those of a component are written over. -/
  defaults : HotOptions := .default
  library : TemplateLibrary := .builtIn
  runtimeDirectory : Text := defaultRuntimeDirectory

/-- Where the runtime is, and the characters that strings in templates can name. -/
structure Installation where
  runtimeDirectory : Text := defaultRuntimeDirectory
  characters : CharacterNames := fun _ => none

/-- What is given for one component. -/
structure Component where
  /-- Usually the path of its file. -/
  id : Value
  /-- The compiled code. -/
  code : Value
  hotOptions : Value := .null
  /-- The compile result. -/
  compiled : Value := .null
  source : Value := .null
  compileOptions : Value := .null

namespace Transformer

/-- The transformer with the templates of a directory over the built-in ones. -/
def withTemplates (t : Transformer) (disk : Disk) (characters : CharacterNames)
    (directory : Option Path) : Run Transformer := do
  let library ← TemplateLibrary.opened disk characters directory
  return { t with library }

/-- A text that may be missing, as a value. -/
def ofText? : Option Text → Value
  | none => .null
  | some text => .str text

/-- What is known of a component with this code. -/
def activation (t : Transformer) (component : Component) (code : Text) : Run Activation := do
  let options ← t.defaults.resolve component.hotOptions component.source
  let metadata ← readMetadata t.walk component.compiled
  let imports ← specifiersFor t.runtimeDirectory options t.hotApi t.adapter
  let sheet ← readStylesheet code (options.get .injectCss).isTruthy
  let compileData : Value :=
    match metadata with
    | none => .null
    | some data => .map data.toMapping
  let hotOptions ← Run.ofExcept options.toJson?
  let compileData ← Run.ofExcept
    (unlessExcess compileData.literalExcess? (jsonLiteral compileData))
  let compileOptions ← Run.ofExcept
    (unlessExcess component.compileOptions.literalExcess?
      (codeLiteral component.compileOptions false))
  return {
    id := component.id
    hotApi := .str imports.hotApi
    adapter := .str imports.adapter
    adapterName := options.get .importAdapterName
    hotOptions := .str hotOptions
    compileData := .str compileData
    compileOptions := .str compileOptions
    cssId := ofText? sheet.cssId
    nonCssHash := ofText? sheet.nonCssHash
    hasAddCss := .bool sheet.hasAddCss
    injectCss := options.get .injectCss
    compatVite := options.get .compatVite
    handle := t.handle }

/-- The code of a component, which must be a text. Code with a surrogate is left out. -/
def codeOf (component : Component) : Except Failure Text :=
  match component.code with
  | .str code => .ok code
  | .unpaired _ => .error .halved
  | v => .error (.codeNotText v.kind)

/-- Makes a component hot. -/
def transform (t : Transformer) (disk : Disk) (component : Component) : Run Text := do
  let code ← Run.ofExcept (codeOf component)
  let activation ← t.activation component code
  Run.report (.makingHot component.id activation.cssId)
  splice code fun name => Run.ofExcept (activation.text t.library disk name)

end Transformer

end HotReload
