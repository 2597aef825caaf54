import HotReload.Disk.Path
/-!
The arguments of the command line.

* `OptionForm` says how an option is written; `scanArguments` sorts arguments into options
  and words.
* `Command` is what is asked for, `Invocation.ofArguments?` reads it, and gives nothing if the
  arguments do not fit.

An option with a value takes it after an equals sign, after its letter, or from the next
argument, whatever that looks like. Two dashes on their own end the options. An option
that is given again wins.
-/

namespace HotReload

/-- How an option is written: with two dashes and its name, or with one dash and its
letter. -/
structure OptionForm where
  name : Text
  letter : Option Char
  takesValue : Bool
  deriving DecidableEq, Repr

/-- Options with their values, and words, both in their order. The value of an option that
takes none is empty. -/
structure ScannedArguments where
  options : List (Text × Text)
  words : List Text
  deriving DecidableEq, Repr

namespace ScannedArguments

/-- The arguments with one more option in front. -/
def withOption (name value : Text) (a : ScannedArguments) : ScannedArguments :=
  { a with options := (name, value) :: a.options }

/-- The arguments with more options in front. -/
def withOptions (options : List (Text × Text)) (a : ScannedArguments) : ScannedArguments :=
  { a with options := options ++ a.options }

/-- The arguments with one more word in front. -/
def withWord (word : Text) (a : ScannedArguments) : ScannedArguments :=
  { a with words := word :: a.words }

/-- The value of an option: the last one that is given. -/
def value? (a : ScannedArguments) (name : Text) : Option Text := a.options.reverse.lookup name

/-- Whether an option is given. -/
def has (a : ScannedArguments) (name : Text) : Bool := (a.value? name).isSome

/-- The path that an option gives. -/
def path? (a : ScannedArguments) (name : Text) : Option Path := (a.value? name).map Path.ofText

end ScannedArguments

/-- The options that one argument gives, and the name of the one that has its value in the
next argument. -/
abbrev GivenOptions := List (Text × Text) × Option Text

/-- The options behind one dash: letters, and a value after the letter of an option that takes
one. -/
def readLetters (forms : List OptionForm) : Text → Option GivenOptions
  | [] => some ([], none)
  | c :: rest =>
      match forms.find? (·.letter == some c) with
      | none => none
      | some form =>
          if form.takesValue then
            if rest.isEmpty then some ([], some form.name) else some ([(form.name, rest)], none)
          else
            (readLetters forms rest).map fun (given, pending) => ((form.name, []) :: given, pending)

/-- The name of a long option and the value after its equals sign. -/
def splitValue (arg : Text) : Text × Option Text :=
  match Text.cut? ['='] arg with
  | some (name, value) => (name, some value)
  | none => (arg, none)

/-- The options that an argument gives. -/
def readOption (forms : List OptionForm) (arg : Text) : Option GivenOptions :=
  let (name, value) := splitValue arg
  match forms.find? (·.name == name) with
  | some form =>
      match form.takesValue, value with
      | true, some value => some ([(form.name, value)], none)
      | true, none => some ([], some form.name)
      | false, some _ => none
      | false, none => some ([(form.name, [])], none)
  | none => if ['-', '-'].isPrefixOf arg then none else readLetters forms (arg.drop 1)

/-- Whether an argument is written like an option. -/
def looksLikeOption : Text → Bool
  | '-' :: _ :: _ => true
  | _ => false

/-- Sorts arguments into options and words. If options and words may not be mixed, what
follows the first word belongs to the words. -/
def scanArguments (forms : List OptionForm) (mixed : Bool) : List Text → Option ScannedArguments
  | [] => some ⟨[], []⟩
  | arg :: rest =>
      if arg = ['-', '-'] then some ⟨[], rest⟩
      else if looksLikeOption arg then
        match readOption forms arg with
        | none => none
        | some (given, none) =>
            (scanArguments forms mixed rest).map (·.withOptions given)
        | some (given, some name) =>
            match rest with
            | [] => none
            | value :: rest =>
                (scanArguments forms mixed rest).map
                  fun a => (a.withOption name value).withOptions given
      else if mixed then (scanArguments forms mixed rest).map (·.withWord arg)
      else some ⟨[], arg :: rest⟩

/-! ### Commands -/

/-- What a transformation is given. -/
structure TransformArguments where
  file : Path
  id : Option Text
  compiled : Option Path
  source : Option Path
  compileOptions : Option Path
  config : Option Path
  output : Option Path
  deriving DecidableEq, Repr

/-- What is asked for. -/
inductive Command where
  | help
  | version
  | init (force : Bool)
  | transform (arguments : TransformArguments)
  | css (file : Path)
  | options (source config : Option Path)
  deriving DecidableEq, Repr

/-- The paths that a command is given. -/
def Command.paths : Command → List Path
  | .help | .version | .init _ => []
  | .transform a =>
      a.file :: [a.compiled, a.source, a.compileOptions, a.config, a.output].filterMap id
  | .css file => [file]
  | .options source config => [source, config].filterMap id

/-- A command, and whether events are shown. -/
structure Invocation where
  verbose : Bool
  command : Command
  deriving DecidableEq, Repr

/-- The option that asks for help. -/
def helpOption : OptionForm := ⟨"--help", none, false⟩

/-- The options that stand before a command. -/
def generalOptions : List OptionForm := [helpOption, ⟨"--verbose", some 'v', false⟩]

/-- The option that names a configuration file. -/
def configOption : OptionForm := ⟨"--config", none, true⟩

/-- The option that names the source of a component. -/
def sourceOption : OptionForm := ⟨"--source", some 's', true⟩

/-- The options of a transformation. -/
def transformOptions : List OptionForm :=
  [helpOption, ⟨"--id", some 'i', true⟩, ⟨"--compiled", some 'c', true⟩, sourceOption,
    ⟨"--compile-options", none, true⟩, configOption, ⟨"--output", some 'o', true⟩]

/-- The names of the commands, and the options of each. -/
def commandOptions : List (Text × List OptionForm) :=
  [("version", [helpOption]), ("init", [helpOption, ⟨"--force", some 'f', false⟩]),
    ("transform", transformOptions), ("css", [helpOption]),
    ("options", [helpOption, sourceOption, configOption])]

/-- The command of a name, if its words fit. -/
def Command.ofScanned? (name : Text) (a : ScannedArguments) : Option Command :=
  if a.has "--help" then some .help
  else
    match String.ofList name, a.words with
    | "version", [] => some .version
    | "init", [] => some (.init (a.has "--force"))
    | "transform", [file] =>
        some (.transform
          ⟨.ofText file, a.value? "--id", a.path? "--compiled", a.path? "--source",
            a.path? "--compile-options", a.path? "--config", a.path? "--output"⟩)
    | "css", [file] => some (.css (.ofText file))
    | "options", [] => some (.options (a.path? "--source") (a.path? "--config"))
    | _, _ => none

/-- Reads the arguments. -/
def Invocation.ofArguments? (args : List Text) : Option Invocation := do
  let general ← scanArguments generalOptions false args
  let verbose := general.has "--verbose"
  if general.has "--help" then return ⟨verbose, .help⟩
  match general.words with
  | [] => none
  | name :: rest =>
      let forms ← commandOptions.lookup name
      let command ← Command.ofScanned? name (← scanArguments forms true rest)
      guard (!command.paths.any Path.hasNull)
      return ⟨verbose, command⟩

end HotReload
