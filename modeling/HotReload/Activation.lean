import HotReload.Options
import HotReload.Template.Library
/-!
The activation of a component: the code that takes the place of its default export.

* `Activation` holds what is known of a component, `Activation.bindings` names it for
  templates.
* `Activation.block` is the activation template as one line. The component stands in it
  only afterwards, so that its own line ends are kept.
* `Activation.text` puts the imports before the line, and behind it the export and a
  statement that adds the stylesheet.
-/

namespace HotReload

/-- What is known of a component. The options and the compile result are literals
already. -/
structure Activation where
  id : Value
  hotApi : Value
  adapter : Value
  adapterName : Value
  hotOptions : Value := "\x7b\x7d"
  compileData : Value := "null"
  compileOptions : Value := "undefined"
  cssId : Value := .null
  nonCssHash : Value := .null
  hasAddCss : Value := .bool false
  injectCss : Value := .bool true
  compatVite : Value := .bool false
  /-- The expression for the metadata of the module. -/
  handle : Value := "import.meta"

namespace Activation

/-- The names that templates use, and their values. -/
def bindings (a : Activation) : Bindings :=
  [("id", a.id), ("hot_api_import", a.hotApi), ("adapter_import", a.adapter),
    ("adapter_name", a.adapterName), ("hot_options", a.hotOptions),
    ("compile_data", a.compileData), ("compile_options", a.compileOptions),
    ("css_id", a.cssId), ("non_css_hash", a.nonCssHash), ("has_add_css", a.hasAddCss),
    ("inject_css", a.injectCss), ("compat_vite", a.compatVite), ("meta", a.handle)]

/-- The activation with other values under some of the names; a key that is none of the
names fails. -/
def withFields (a : Activation) (fields : Mapping) : Except Failure Activation :=
  let value (key : Text) (old : Value) : Value := (Mapping.field? key fields).getD old
  let isName : Value → Bool
    | .str key => a.bindings.any (·.1 == key)
    | _ => false
  if fields.all fun e => isName e.1 then
    .ok
      ⟨value "id" a.id, value "hot_api_import" a.hotApi, value "adapter_import" a.adapter,
        value "adapter_name" a.adapterName, value "hot_options" a.hotOptions,
        value "compile_data" a.compileData, value "compile_options" a.compileOptions,
        value "css_id" a.cssId, value "non_css_hash" a.nonCssHash,
        value "has_add_css" a.hasAddCss, value "inject_css" a.injectCss,
        value "compat_vite" a.compatVite, value "meta" a.handle⟩
  else .error .wrongKind

/-- The names and values with more of them, none of which may be there already. -/
def bindingsWith (a : Activation) (more : Bindings) : Except Failure Bindings :=
  if more.any fun b => a.bindings.any (·.1 == b.1) then .error .wrongKind
  else .ok (more ++ a.bindings)

/-- What keeps the values from being copied for a template. -/
def copyExcess? (a : Activation) : Option Excess := a.bindings.findSome? (·.2.copyExcess?)

/-- Renders the template of a name, with copies of the values and more names and values. -/
def renderWith (a : Activation) (library : TemplateLibrary) (disk : Disk) (name : Text)
    (more : Bindings) : Except Failure Text := do
  let nodes ← library.template disk name
  unlessExcess a.copyExcess? ()
  let bindings ← a.bindingsWith more
  renderTemplate name bindings nodes

/-! ### The text -/

/-- What stands for the component while the template is rendered. -/
def slot : Text := '\x00' :: ("component".toList ++ ['\x00'])

/-- The statements that import the two modules, but for the last semicolon. -/
def imports (a : Activation) : Text :=
  "import * as " ++ hotApiName ++ " from " ++ codeLiteral a.hotApi false ++ ";import " ++
    a.adapterName.display ++ " from " ++ codeLiteral a.adapter false

/-- The activation template on one line, with the component in it. -/
def block (a : Activation) (library : TemplateLibrary) (disk : Disk) (component : Text) :
    Except Failure Text := do
  let text ← a.renderWith library disk activationTemplate
    [("component", .str slot), ("global_name", .str hotApiName)]
  return Text.replace slot component text.flatten

/-- A statement that adds the stylesheet when the module is loaded. Components that are
mounted already do not add it again. -/
def injection (a : Activation) : Text :=
  if a.injectCss.isTruthy && a.cssId.isTruthy then
    "\nif (typeof add_css !== 'undefined' && !document.getElementById(" ++
      codeLiteral a.cssId false ++ ")) add_css();"
  else []

/-- The export of the component. -/
def exportOf (component : Text) : Text := "\nexport default " ++ component ++ ";\n"

/-- The code that takes the place of the default export. -/
def text (a : Activation) (library : TemplateLibrary) (disk : Disk) (component : Text) :
    Except Failure Text := do
  let block ← a.block library disk component
  return a.imports ++ ";" ++ block ++ exportOf component ++ a.injection ++ "\n"

end Activation

end HotReload
