import HotReload.Options
/-!
The modules that generated code imports: the hot API and an adapter for the platform.

* `hotApiModule` and `adapterModule` give one each, `specifiersFor` both.
* An explicit module wins; otherwise the file is taken from the directory of the
  runtime scripts, or from the name of their package if paths are not to be absolute.
-/

namespace HotReload

/-- The directory of the runtime scripts that is used unless another one is given. -/
def defaultRuntimeDirectory : Text := "/svelte_hmr/runtime"

/-- The name of the package of the runtime scripts. -/
def runtimePackage : Text := "svelte-hmr/runtime/"

/-- The script with the hot API. -/
def hotApiFile : Text := "hot-api-esm.js"

/-- The adapter for the browser. -/
def domAdapterFile : Text := "proxy-adapter-dom.js"

/-- The adapter for the native platform, which web users cannot resolve. -/
def nativeAdapterFile : Text := "svelte-native/proxy-adapter-native.js"

/-- The modules that generated code imports. -/
structure Specifiers where
  hotApi : Text
  adapter : Text
  deriving DecidableEq, Repr

/-- A specifier with slashes in place of backslashes. Values that are no texts have no such
form: some refuse the replacement, the others have none. A text with a surrogate would have one
that is no `Text`, and is left out. -/
def withSlashes : Value → Except Failure Text
  | .str text => .ok text.withSlashes
  | .unpaired _ => .error .halved
  | .bytes _ | .date _ | .time _ | .moment _ => .error .wrongKind
  | _ => .error .missingMember

/-- A runtime script, seen from the runtime directory or from its package. -/
def runtimeScript (runtimeDirectory : Text) (options : HotOptions) (file : Text) : Text :=
  (if (options.get .absoluteImports).isTruthy then runtimeDirectory ++ ['/'] else runtimePackage)
    ++ file

/-- The adapter for the platform that the options name. -/
def adapterModule (runtimeDirectory : Text) (options : HotOptions) : Text :=
  Text.withSlashes (runtimeScript runtimeDirectory options
    (if (options.get .native).isTruthy then nativeAdapterFile else domAdapterFile))

/-- The hot API module, `hotApi` if it is given. -/
def hotApiModule (runtimeDirectory : Text) (options : HotOptions) (hotApi : Value) :
    Except Failure Text :=
  if hotApi.isTruthy then withSlashes hotApi
  else .ok (Text.withSlashes (runtimeScript runtimeDirectory options hotApiFile))

/-- Both modules; `adapter` wins over the platform if it is given. -/
def specifiersFor (runtimeDirectory : Text) (options : HotOptions) (hotApi adapter : Value) :
    Run Specifiers := do
  let hotApi ← Run.ofExcept (hotApiModule runtimeDirectory options hotApi)
  let adapter ← Run.ofExcept
    (if adapter.isTruthy then withSlashes adapter
    else .ok (adapterModule runtimeDirectory options))
  Run.report (.specifiersFound hotApi adapter)
  return ⟨hotApi, adapter⟩

end HotReload
