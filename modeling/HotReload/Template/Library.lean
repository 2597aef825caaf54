import HotReload.Disk
import HotReload.Template.Render
/-!
The library of templates: those of an override directory, and behind them the ones that
are built in.

* `TemplateLibrary` knows the directory, and whether it was there when the library was
  opened.
* `TemplateLibrary.origin?` tells where the template of a name comes from.
* `TemplateLibrary.template` reads it.
* `TemplateLibrary.isOverridden` and `TemplateLibrary.names` tell what is there.
-/

namespace HotReload

/-- The name of the activation template. -/
def activationTemplate : Text := "apply_hmr.js.j2"

/-- The lines of the activation template. -/
def activationLines : List Text :=
  ["\x7b# Rendered then flattened onto a single line by the code generator. #\x7d",
    "if (\x7b% if not compat_vite %\x7dimport.meta && \x7b% endif %\x7dimport.meta.hot) \x7b",
    "  \x7b\x7b component \x7d\x7d = \x7b\x7b global_name \x7d\x7d.applyHmr(\x7b",
    "    m: \x7b\x7b meta \x7d\x7d,",
    "    id: \x7b\x7b id | js \x7d\x7d,",
    "    hotOptions: \x7b\x7b hot_options \x7d\x7d,",
    "    Component: \x7b\x7b component \x7d\x7d,",
    "    ProxyAdapter: \x7b\x7b adapter_name \x7d\x7d,",
    "    compileData: \x7b\x7b compile_data \x7d\x7d,",
    "    compileOptions: \x7b\x7b compile_options \x7d\x7d,",
    "    cssId: \x7b\x7b css_id | js(null=has_add_css) \x7d\x7d,",
    "    nonCssHash: \x7b\x7b non_css_hash | js \x7d\x7d,",
    "  \x7d);",
    "\x7b% if compat_vite %\x7d",
    "  import.meta.hot.accept();",
    "\x7b% endif %\x7d",
    "\x7d"]

/-- The activation template. -/
def activationText : Text := activationLines.flatMap fun line => line ++ ['\n']

/-- The templates that are built in. -/
def builtInTemplates : List (Text × Text) := [(activationTemplate, activationText)]

/-- An override directory, if there is one, and whether it is searched. -/
structure TemplateLibrary where
  directory : Option Path
  searched : Bool
  /-- The characters that strings in templates can name. -/
  characters : CharacterNames

/-- Where a template comes from. -/
inductive TemplateOrigin where
  /-- A file of the override directory. -/
  | override (content : List UInt8)
  | builtIn (text : Text)

/-- The parts of a template's name. Empty parts and single points do not count, and a name
with a double point has no parts. -/
def templateParts? (name : Text) : Option (List Text) :=
  let parts := Text.split '/' name
  if parts.any (· == ['.', '.']) then none
  else some (parts.filter fun part => part != [] && part != ['.'])

/-- The names that cannot be given a value from outside. -/
def reservedNames : List Text := [selfName, "template_name", "context"]

/-- The names and values in a mapping, all of whose keys must be texts that are not
reserved. -/
def bindingsOf : Mapping → Except Failure Bindings
  | [] => .ok []
  | (.str name, v) :: entries =>
      if reservedNames.contains name then .error .wrongKind
      else (bindingsOf entries).map ((name, v) :: ·)
  | _ => .error .wrongKind

/-- The names and values in a value, which must be a mapping. -/
def bindingsOfValue : Value → Except Failure Bindings
  | .map entries => bindingsOf entries
  | _ => .error .wrongKind

namespace TemplateLibrary

/-- The library that holds the built-in templates only. They name no characters. -/
def builtIn : TemplateLibrary := ⟨none, false, fun _ => none⟩

/-- Opens a library. A directory that is not there now is not searched later. -/
def opened (disk : Disk) (characters : CharacterNames) (directory : Option Path) :
    Run TemplateLibrary :=
  match directory with
  | none => return builtIn
  | some path => do
      if ← Run.ofDisk (disk.hasDirectory path) then
        Run.report (.overridesEnabled path.text)
        return ⟨some path, true, characters⟩
      else
        Run.report (.overridesMissing path.text)
        return ⟨some path, false, characters⟩

/-- The content of the override file that these parts name. In the directory `.` they are looked up
as `./` and the parts, two bytes more than the path has here: a file whose path has one of the two
greatest lengths is not found there, which is left out. -/
def overrideContent? (library : TemplateLibrary) (disk : Disk) (parts : List Text) :
    Option (List UInt8) :=
  match library.searched, library.directory with
  | true, some path =>
      match disk.lookup (path.append ⟨[], parts⟩) with
      | .ok (.file content) => some content
      | _ => none
  | _, _ => none

/-- Where the template of a name comes from: a file of the override directory, or else the
built-in templates. -/
def origin? (library : TemplateLibrary) (disk : Disk) (name : Text) : Option TemplateOrigin :=
  match templateParts? name with
  | none => none
  | some parts =>
      match library.overrideContent? disk parts with
      | some content => some (.override content)
      | none => (builtInTemplates.lookup (Text.join ['/'] parts)).map .builtIn

/-- The text of a template. Line ends of all kinds count as one kind. -/
def TemplateOrigin.text : TemplateOrigin → Except Failure Text
  | .builtIn text => .ok text
  | .override content =>
      match textOfUtf8 content with
      | .ok text => .ok text.universalLines
      | .error _ => .error .undecodable

/-- Reads the template of a name. -/
def template (library : TemplateLibrary) (disk : Disk) (name : Text) :
    Except Failure (List TemplateNode) :=
  match library.origin? disk name with
  | none => .error (.template (.notFound name))
  | some origin => do readTemplate library.characters (← TemplateOrigin.text origin)

/-- Renders the template of a name. -/
def render (library : TemplateLibrary) (disk : Disk) (name : Text) (bindings : Bindings) :
    Except Failure Text := do
  renderTemplate name bindings (← library.template disk name)

/-- Whether the override directory has a file of this name. -/
def isOverridden (library : TemplateLibrary) (disk : Disk) (name : Text) :
    Except OsError Bool :=
  match library.directory with
  | some path => disk.hasFile (path.append (Path.ofText name))
  | none => .ok false

/-- The names of all templates in order, each once. -/
def names (library : TemplateLibrary) (disk : Disk) : List Text :=
  let overrides :=
    match library.searched, library.directory with
    | true, some path => (disk.filesBelow path).map (Text.join ['/'])
    | _, _ => []
  ((overrides ++ builtInTemplates.map (·.1)).mergeSort Text.precedes).eraseDups

end TemplateLibrary

end HotReload
