import HotReload.Options
import HotReload.Toml.Reader
import HotReload.Transformer
/-!
The configuration of a project: hot options, and settings of a transformer.

* `Config.toMapping` is the form in which it stands in a file.
* `Config.ofMapping` reads that form. A section or an entry that is missing takes its
  default, an unknown hot option is kept, an unknown setting is not.
* `Config.save` and `Config.load` go to a file and come from one.
* `TransformerConfig.build` makes the transformer.
-/

namespace HotReload

/-- The name of the configuration file. -/
def configFile : Text := "svelte-hmr.toml"

/-- The settings of a transformer. An empty text stands for a setting that is not made. -/
structure TransformerConfig where
  handle : Value := "import.meta"
  hotApi : Value := ""
  adapter : Value := ""
  templateDirectory : Value := ""

namespace TransformerConfig

/-- The settings under their names. -/
def toMapping (c : TransformerConfig) : Mapping :=
  [("meta", c.handle), ("hot_api", c.hotApi), ("adapter", c.adapter),
    ("template_dir", c.templateDirectory)]

/-- The settings that entries make; the others have their defaults. Entries under other
names do not count. -/
def ofMapping (entries : Mapping) : TransformerConfig :=
  let default : TransformerConfig := {}
  let value (key : Text) (old : Value) : Value := (Mapping.field? key entries).getD old
  ⟨value "meta" default.handle, value "hot_api" default.hotApi,
    value "adapter" default.adapter, value "template_dir" default.templateDirectory⟩

/-- The settings that entries make, all of which must be known. -/
def ofFields (fields : Mapping) : Except Failure TransformerConfig :=
  if fields.all fun e => (Mapping.get? e.1 (toMapping {})).isSome then .ok (ofMapping fields)
  else .error .wrongKind

/-- The directory that a value names. -/
def directory? (v : Value) : Except Failure (Option Path) :=
  match v with
  | .null => .ok none
  | .str text => .ok (some (Path.ofText text))
  | _ => .error .wrongKind

/-- A value, or another one if it counts as false. -/
def orElse (v other : Value) : Value := if v.isTruthy then v else other

/-- The transformer with these settings and these default options. -/
def build (c : TransformerConfig) (disk : Disk) (installation : Installation)
    (defaults : HotOptions) : Run Transformer := do
  let directory ← Run.ofExcept (directory? (orElse c.templateDirectory .null))
  let transformer : Transformer :=
    { handle := orElse c.handle "import.meta"
      hotApi := orElse c.hotApi .null
      adapter := orElse c.adapter .null
      defaults
      runtimeDirectory := installation.runtimeDirectory }
  transformer.withTemplates disk installation.characters directory

end TransformerConfig

/-- A configuration. -/
structure Config where
  hot : HotOptions := .default
  transformer : TransformerConfig := {}

namespace Config

/-- The configuration in two sections. -/
def toMapping (c : Config) : Mapping :=
  [("hot", .map c.hot.toTable), ("transformer", .map c.transformer.toMapping)]

/-- The table of a section, empty if the section is not there. -/
def tableOf (name shown : Text) (entries : Mapping) : Except Failure Mapping :=
  match Mapping.field? name entries with
  | none => .ok []
  | some (.map table) => .ok table
  | some _ => .error (.config (.notTable name shown))

/-- Reads the two sections of the file that messages show as `shown`. -/
def ofMapping (shown : Text) (entries : Mapping) : Except Failure Config := do
  let hot ← tableOf "hot" shown entries
  let transformer ← tableOf "transformer" shown entries
  return ⟨HotOptions.default.writeAll hot, .ofMapping transformer⟩

/-! ### Files -/

/-- The table that a file holds. -/
def readTable (disk : Disk) (path : Path) : Except LoadFault Mapping :=
  match disk.read path with
  | .error e => .error (.unreadable (.os e))
  | .ok content =>
      match textOfUtf8 content with
      | .error e => .error (.unreadable (.encoding e))
      | .ok text =>
          match readToml text with
          | .error .malformed => .error .notToml
          | .error (.excess e) => .error (.excess e)
          | .ok entries => .ok entries

/-- What becomes of a file that cannot be loaded. -/
def loadFailure (path : Path) (fault : LoadFault) : Run Config :=
  match fault with
  | .excess e => Run.fail (.excess e)
  | fault => do
      Run.report (.configLoadFailed path.text fault)
      Run.fail (.config (.loadFailed path.text fault))

/-- Loads a configuration. -/
def load (disk : Disk) (path : Path) : Run Config := do
  if !(← Run.ofDisk (disk.has path)) then Run.fail (.config (.notFound path.text))
  else
    match readTable disk path with
    | .error fault => loadFailure path fault
    | .ok entries => do
        let config ← Run.ofExcept (ofMapping path.text entries)
        Run.report (.configLoaded path.text)
        return config

/-- What becomes of a save whose text cannot all be written. -/
def saveFailure (path : Path) (fault : SaveFault) : Run Unit :=
  match fault with
  | .form .zonedTime => Run.fail .badValue
  | .form (.excess e) => Run.fail (.excess e)
  | .form .halved => Run.fail .halved
  | .os .embeddedNull => Run.fail (.os .embeddedNull)
  | fault => do
      Run.report (.configSaveFailed path.text fault)
      Run.fail (.config (.saveFailed path.text fault))

/-- Saves a configuration, and makes the directories above its file. A configuration that
cannot all be written leaves what stands before the fault, as far as there is room; a disk that is
full comes before the fault, as the text before it goes to the disk all the same. -/
def save (config : Config) (disk : Disk) (path : Path) : Disk × Run Unit :=
  match disk.makeDirectories path.parent (path.parts.length + 1) with
  | (disk, some e) => (disk, Run.fail (.os e))
  | (disk, none) =>
      let document := tomlDocument config.toMapping
      match disk.store path document.text.toUtf8 with
      | (disk, some e) => (disk, saveFailure path (.os e))
      | (disk, none) =>
          match document.fault with
          | some fault => (disk, saveFailure path (.form fault))
          | none => (disk, Run.report (.configSaved path.text))

end Config

end HotReload
