import HotReload.Command.Arguments
import HotReload.Command.Console
import HotReload.Config
import HotReload.Json.Reader
/-!
The commands.

* `Outcome` is what a command leaves: the disk, what it printed, its exit status, and
  the failure that stopped it, if no message foresees it.
* `Command.execute` carries a command out.
* `Command.sources` and `Command.templateSources` name the files that it may look at.
-/

namespace HotReload

/-- The version of the program. -/
def programVersion : Text := "0.1.0"

/-- What a command leaves. -/
structure Outcome where
  disk : Disk
  out : Text := []
  err : Text := []
  status : Nat := 0
  /-- A failure that no message foresees. -/
  stopped : Option Failure := none
  events : List Event := []

/-- How the program is called. -/
def usageText : Text :=
  "Usage: svelte-hmr [--verbose] version | init | transform FILE | css FILE | options"

/-! ### Reading files -/

/-- The text of a file. Line ends of all kinds count as one kind. -/
def readText (disk : Disk) (path : Path) : Except Failure Text :=
  match disk.read path with
  | .error .embeddedNull => .error (.os .embeddedNull)
  | .error e => .error (.transform (.unreadable path.text (.os e)))
  | .ok content =>
      match textOfUtf8 content with
      | .error e => .error (.transform (.unreadable path.text (.encoding e)))
      | .ok text => .ok text.universalLines

/-- The JSON value in a file. -/
def readJsonFile (disk : Disk) (path : Path) : Except Failure Value := do
  let text ← readText disk path
  match readJson text with
  | .error (.malformed e) => .error (.transform (.notJson path.text e))
  | .error (.excess e) => .error (.excess e)
  | .ok json => .ok json.toValue

/-- The compile result in a file. -/
def readCompileResult (disk : Disk) (path : Path) : Except Failure Value := do
  match ← readJsonFile disk path with
  | .map entries => .ok (.map entries)
  | _ => .error (.transform (.notObject path.text))

/-- What is read at a path, or null if there is no path. -/
def atPath (read : Path → Except Failure Value) : Option Path → Except Failure Value
  | none => .ok .null
  | some path => read path

/-- The source of a component. -/
def readSource (disk : Disk) (path : Path) : Except Failure Value := (readText disk path).map .str

/-- The configuration file of the working directory. -/
def localConfig (disk : Disk) : Path := ⟨['/'], disk.working ++ [configFile]⟩

/-- The configuration in the file that is named, or else in the one of the working directory, if
it is there, or else the default. -/
def projectConfig (disk : Disk) : Option Path → Run Config
  | some path => Config.load disk path
  | none => do
      if ← Run.ofDisk (disk.hasFile (localConfig disk)) then Config.load disk (localConfig disk)
      else return {}

/-! ### The commands -/

/-- The message of a failure. A single backslash at its end is shown twice. -/
def failureLine (message : Text) : Text :=
  let doubled := message.reverse.takeWhile (· == '\\') == ['\\']
  consoleLines ("Error: " ++ message ++ if doubled then ['\\'] else [])

/-- The outcome of a run whose value goes to `next`. -/
def Outcome.ofRun {α : Type} (disk : Disk) (run : Run α) (next : α → Outcome) : Outcome :=
  match run.result with
  | .ok a => { next a with events := run.events }
  | .error failure =>
      match failure.report? with
      | some message => { disk, err := failureLine message, status := 1, events := run.events }
      | none => { disk, stopped := some failure, status := 1, events := run.events }

/-- Writes the default configuration. -/
def runInit (disk : Disk) (force : Bool) : Outcome :=
  let path := localConfig disk
  if disk.has path matches .ok true && !force then
    { disk, status := 1
      out := consoleLines (configFile ++ " already exists. Use --force to overwrite.") }
  else
    let (disk, run) := Config.save {} disk path
    match run.result with
    | .ok () => { disk, out := consoleLines ("Created " ++ path.text), events := run.events }
    | .error failure =>
        match failure.report? with
        | some message =>
            { disk, status := 1, events := run.events
              out := consoleLines ("Failed to write config: " ++ message) }
        | none => { disk, status := 1, stopped := some failure, events := run.events }

/-- The id of the component: the one that is given, or the path of its file. -/
def TransformArguments.componentId (a : TransformArguments) : Text :=
  match a.id with
  | some (c :: id) => c :: id
  | _ => a.file.text

/-- The component made hot. -/
def hotCode (disk : Disk) (installation : Installation) (a : TransformArguments) : Run Text := do
  let config ← projectConfig disk a.config
  let transformer ← config.transformer.build disk installation config.hot
  let code ← Run.ofExcept (readText disk a.file)
  let compiled ← Run.ofExcept (atPath (readCompileResult disk) a.compiled)
  let source ← Run.ofExcept (atPath (readSource disk) a.source)
  let compileOptions ← Run.ofExcept (atPath (readJsonFile disk) a.compileOptions)
  transformer.transform disk
    { id := .str a.componentId, code := .str code, compiled, source, compileOptions }

/-- The code that a run gives, or nothing if it gives code with a surrogate. -/
def Run.code? (run : Run Text) : Run (Option Text) :=
  match run.result with
  | .ok code => ⟨run.events, .ok (some code)⟩
  | .error .halved => ⟨run.events, .ok none⟩
  | .error failure => ⟨run.events, .error failure⟩

/-- Puts code on the output, or into a file if one is named. Code with a surrogate cannot be put
there, but its file has been opened by then. -/
def deliver (disk : Disk) (output : Option Path) (code : Option Text) : Outcome :=
  match output, code with
  | none, none => { disk, status := 1, stopped := some .halved }
  | none, some code => { disk, out := withoutStyles code }
  | some path, code =>
      match disk.store path (code.elim [] Text.toUtf8), code with
      | (disk, some e), _ =>
          { disk, status := 1
            err := consoleLines ("Failed to write " ++ path.text ++ ": " ++ e.message) }
      | (disk, none), none => { disk, status := 1, stopped := some .halved }
      | (disk, none), some _ => { disk, out := consoleLines ("Wrote " ++ path.text) }

/-- A text in faint letters. Backslashes before the tag that ends them escape one another and,
if one is left over, the tag. -/
def faint (text : Text) : Text :=
  let slashes := (text.reverse.takeWhile (· == '\\')).length
  text.take (text.length - slashes) ++ List.replicate (slashes / 2) '\\' ++
    (if slashes % 2 = 1 then ("[/dim]" : Text) else [])

/-- What is known of a stylesheet, in a table. Markup in the id is read. -/
def stylesheetText (markup : Markup) (file : Path) (sheet : Stylesheet) : Except Failure Text :=
  match sheet.cssId with
  | none => .ok (consoleLines (faint ("No stylesheet found in " ++ file.name)))
  | some id => markup.table [("cssId", id), ("nonCssHash", sheet.nonCssHash.getD [])]

/-- The stylesheet of a file. -/
def fileStylesheet (disk : Disk) (file : Path) : Run Stylesheet := do
  let code ← Run.ofExcept (readText disk file)
  readStylesheet code true

/-- What is known of the stylesheet of a file, in a table. -/
def shownStylesheet (markup : Markup) (disk : Disk) (file : Path) : Run Text := do
  let sheet ← fileStylesheet disk file
  Run.ofExcept (stylesheetText markup file sheet)

/-- The rows of options: their keys, and their values as JSON. -/
def optionRows : Mapping → Except Failure (List (Text × Text))
  | [] => .ok []
  | (key, value) :: entries =>
      match value.stop? (·.exactJson?.isSome) mostOpenSteps, spacedJson value with
      | some (.excess e), _ => .error (.excess e)
      | none, some json => (optionRows entries).map ((key.display, json) :: ·)
      | _, _ => .error .wrongKind

/-- The resolved options, in rows. -/
def resolvedRows (disk : Disk) (source config : Option Path) : Run (List (Text × Text)) := do
  let config ← projectConfig disk config
  let source ← Run.ofExcept (atPath (readSource disk) source)
  let options ← config.hot.resolve .null source
  Run.ofExcept (optionRows options.toMapping)

/-- The resolved options, in a table. Markup in a key is read, and tags in a value are escaped: no
JSON ends with a backslash, so that nothing else has to be. -/
def shownOptions (markup : Markup) (disk : Disk) (source config : Option Path) : Run Text := do
  let rows ← resolvedRows disk source config
  Run.ofExcept (markup.table (rows.map fun row => (row.1, escapeTags row.2)))

/-- Carries a command out. -/
def Command.execute (disk : Disk) (installation : Installation) (markup : Markup) :
    Command → Outcome
  | .help => { disk, out := consoleLines usageText }
  | .version => { disk, out := consoleLines ("svelte-hmr " ++ programVersion) }
  | .init force => runInit disk force
  | .transform a => .ofRun disk (hotCode disk installation a).code? (deliver disk a.output)
  | .css file => .ofRun disk (shownStylesheet markup disk file) fun out => { disk, out }
  | .options source config =>
      .ofRun disk (shownOptions markup disk source config) fun out => { disk, out }

/-- Carries the command out that the arguments ask for. Arguments that do not fit have the
status two. -/
def runArguments (disk : Disk) (installation : Installation) (markup : Markup) (args : List Text) :
    Outcome :=
  match Invocation.ofArguments? args with
  | some invocation => invocation.command.execute disk installation markup
  | none => { disk, err := consoleLines usageText, status := 2 }

/-! ### The files of a command -/

/-- The paths that a command names, and the configuration file it may read. -/
def Command.sources (disk : Disk) : Command → List Path
  | .help | .version => []
  | .init _ => [localConfig disk]
  | .transform a =>
      a.file :: [a.compiled, a.source, a.compileOptions, a.output].filterMap id ++
        [a.config.getD (localConfig disk)]
  | .css file => [file]
  | .options source config => [source].filterMap id ++ [config.getD (localConfig disk)]

/-- The override template that a command may read, once its configuration is on the disk. -/
def Command.templateSources (disk : Disk) : Command → List Path
  | .transform a =>
      match (projectConfig disk a.config).result with
      | .ok config =>
          match TransformerConfig.directory? config.transformer.templateDirectory with
          | .ok (some directory) => [directory, directory.append ⟨[], [activationTemplate]⟩]
          | _ => []
      | .error _ => []
  | _ => []

end HotReload
