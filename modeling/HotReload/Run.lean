import HotReload.Failure
import HotReload.Value.Display
/-!
Runs: a value or a failure, and the events on the way to it.

* `Event` has a constructor for each thing that is reported, with its level, the
  channel it goes to and its words.
* `Run` is the type of a computation that reports events and may fail. Events that
  came before a failure are kept.
-/

namespace HotReload

/-- How important an event is. -/
inductive Level where
  | debug
  | info
  | warning
  | error
  deriving DecidableEq, Repr

/-- The part of the library that reports an event. -/
inductive Channel where
  | stylesheet
  | accessors
  | config
  | imports
  | transform
  | activation
  | templates
  deriving DecidableEq, Repr

/-- The name of a channel. -/
def Channel.name : Channel → Text
  | .stylesheet => "svelte_hmr.css"
  | .accessors => "svelte_hmr.accessors"
  | .config => "svelte_hmr.config"
  | .imports => "svelte_hmr.imports"
  | .transform => "svelte_hmr.make_hot"
  | .activation => "svelte_hmr.codegen.render"
  | .templates => "svelte_hmr.codegen.templates"

/-- Something that is reported. -/
inductive Event where
  | noStyleId
  | accessorsFound (result : Option Bool)
  | markerFound (marker : Value)
  | specifiersFound (hotApi adapter : Text)
  | makingHot (id cssId : Value)
  | noExport
  | overridesEnabled (directory : Text)
  | overridesMissing (directory : Text)
  | configLoaded (path : Text)
  | configLoadFailed (path : Text) (fault : LoadFault)
  | configSaved (path : Text)
  | configSaveFailed (path : Text) (fault : SaveFault)

namespace Event

/-- The level of an event. -/
def level : Event → Level
  | .noStyleId | .accessorsFound _ | .markerFound _ | .specifiersFound _ _ | .makingHot _ _
  | .noExport => .debug
  | .overridesEnabled _ | .configLoaded _ | .configSaved _ => .info
  | .overridesMissing _ => .warning
  | .configLoadFailed _ _ | .configSaveFailed _ _ => .error

/-- The channel of an event. -/
def channel : Event → Channel
  | .noStyleId => .stylesheet
  | .accessorsFound _ => .accessors
  | .markerFound _ => .config
  | .specifiersFound _ _ => .imports
  | .makingHot _ _ => .transform
  | .noExport => .activation
  | .overridesEnabled _ | .overridesMissing _ => .templates
  | .configLoaded _ | .configLoadFailed _ _ | .configSaved _ | .configSaveFailed _ _ => .config

/-- A truth value that may be unknown, as a value. -/
def ofTruth : Option Bool → Value
  | none => .null
  | some b => .bool b

/-- The words of an event. -/
def message : Event → Text
  | .noStyleId => "add_css found without a style id"
  | .accessorsFound result => "Compile result accessors: " ++ (ofTruth result).display
  | .markerFound marker =>
      "Found " ++ marker.quoted ++ " in source, state will not be preserved"
  | .specifiersFound hotApi adapter =>
      "Resolved imports: hot api " ++ hotApi ++ ", adapter " ++ adapter
  | .makingHot id cssId => "Making " ++ id.display ++ " hot (css id: " ++ cssId.display ++ ")"
  | .noExport => "No default export statement found, leaving code unchanged"
  | .overridesEnabled directory => "User template overrides enabled: " ++ directory
  | .overridesMissing directory => "Template override directory not found: " ++ directory
  | .configLoaded path => "Loaded config from " ++ path
  | .configLoadFailed path fault => "Failed to load config from " ++ path ++ fault.suffix
  | .configSaved path => "Saved config to " ++ path
  | .configSaveFailed path fault => "Failed to save config to " ++ path ++ ": " ++ fault.message

end Event

/-- Events in their order, and a value or the failure that ended the run. -/
structure Run (α : Type) where
  events : List Event
  result : Except Failure α

namespace Run

variable {α β : Type}

/-- A run without events that gives a value. -/
def ok (a : α) : Run α := ⟨[], .ok a⟩

/-- A run without events that fails. -/
def fail (failure : Failure) : Run α := ⟨[], .error failure⟩

/-- A run that reports one event. -/
def report (event : Event) : Run Unit := ⟨[event], .ok ()⟩

/-- A run without events. -/
def ofExcept (result : Except Failure α) : Run α := ⟨[], result⟩

/-- A run without events that asks the disk. -/
def ofDisk (result : Except OsError α) : Run α := ofExcept (result.mapError .os)

/-- One run after another; a failure ends both. -/
def andThen (first : Run α) (next : α → Run β) : Run β :=
  match first.result with
  | .error failure => ⟨first.events, .error failure⟩
  | .ok a => ⟨first.events ++ (next a).events, (next a).result⟩

instance : Monad Run where
  pure := ok
  bind := andThen

instance : MonadLift (Except Failure) Run := ⟨ofExcept⟩

@[simp] theorem result_pure (a : α) : (pure a : Run α).result = .ok a := rfl

@[simp] theorem events_pure (a : α) : (pure a : Run α).events = [] := rfl

@[simp] theorem result_report (event : Event) : (report event).result = .ok () := rfl

@[simp] theorem result_fail (failure : Failure) : (fail failure : Run α).result = .error failure :=
  rfl

@[simp] theorem result_ofExcept (r : Except Failure α) : (ofExcept r).result = r := rfl

/-- The result of a run in two steps, which no event touches. -/
@[simp] theorem result_bind (first : Run α) (next : α → Run β) :
    (first >>= next).result = first.result.bind fun a => (next a).result := by
  show (andThen first next).result = _
  unfold andThen
  cases first.result <;> rfl

end Run

end HotReload
