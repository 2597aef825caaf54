import HotReload.Json.Literal
import HotReload.Run
/-!
Hot options: what the reload runtime is told.

* `Field` enumerates the options that are known, each with two spellings of its name.
* `HotOptions` gives a value to each field and keeps the entries under other names.
* `HotOptions.merge` writes overrides over options, `HotOptions.resolve` settles
  whether state is kept.
* `HotOptions.toMapping` and `HotOptions.toJson` give the form that the runtime reads.
-/

namespace HotReload

/-- The names that generated code binds in a module. -/
def hotApiName : Text := "___SVELTE_HMR_HOT_API"

/-- The name that the adapter is bound to unless the options say otherwise. -/
def defaultAdapterName : Text := "___SVELTE_HMR_HOT_API_PROXY_ADAPTER"

/-- The options that are known, in their order. -/
inductive Field where
  /-- Local state is not kept. -/
  | noPreserveState
  /-- A marker: if it occurs in the source of a component, state is not kept. -/
  | noPreserveStateKey
  /-- No reload after a fatal error. -/
  | noReload
  /-- Recovery from errors while a component is set up. -/
  | optimistic
  /-- Modules with named exports are accepted. -/
  | acceptNamedExports
  /-- Components with accessors are accepted. -/
  | acceptAccessors
  /-- A change of styles alone replaces the stylesheet only. -/
  | injectCss
  /-- Milliseconds between the removal of a stylesheet and the next. -/
  | cssEjectDelay
  /-- The native platform. -/
  | native
  /-- The conventions of one bundler. -/
  | compatVite
  /-- The name that the adapter is bound to. -/
  | importAdapterName
  /-- The runtime is imported by absolute path. -/
  | absoluteImports
  deriving DecidableEq, Repr

namespace Field

/-- All fields in their order. -/
def all : List Field :=
  [noPreserveState, noPreserveStateKey, noReload, optimistic, acceptNamedExports,
    acceptAccessors, injectCss, cssEjectDelay, native, compatVite, importAdapterName,
    absoluteImports]

/-- The words of a field's name. -/
def words : Field → List Text
  | noPreserveState => ["no", "preserve", "state"]
  | noPreserveStateKey => ["no", "preserve", "state", "key"]
  | noReload => ["no", "reload"]
  | optimistic => ["optimistic"]
  | acceptNamedExports => ["accept", "named", "exports"]
  | acceptAccessors => ["accept", "accessors"]
  | injectCss => ["inject", "css"]
  | cssEjectDelay => ["css", "eject", "delay"]
  | native => ["native"]
  | compatVite => ["compat", "vite"]
  | importAdapterName => ["import", "adapter", "name"]
  | absoluteImports => ["absolute", "imports"]

/-- A word with a capital first letter. -/
def capitalized : Text → Text
  | [] => []
  | c :: rest => c.toUpper :: rest

/-- The name with underscores between the words. -/
def snakeName (f : Field) : Text := Text.join ['_'] f.words

/-- The name with a capital at the start of each word but the first. -/
def camelName (f : Field) : Text :=
  match f.words with
  | [] => []
  | word :: words => word ++ (words.map capitalized).flatten

/-- The field that a key names, in either spelling. -/
def ofKey? : Value → Option Field
  | .str name => all.find? fun f => name == f.snakeName || name == f.camelName
  | _ => none

/-- The value of a field that is not given. -/
def default : Field → Value
  | noPreserveStateKey => "@!hmr"
  | acceptNamedExports | acceptAccessors | injectCss | absoluteImports => .bool true
  | cssEjectDelay => .int 100
  | importAdapterName => .str defaultAdapterName
  | noPreserveState | noReload | optimistic | native | compatVite => .bool false

end Field

/-- A value for each field, and the entries under other names. -/
structure HotOptions where
  get : Field → Value
  extra : Mapping

namespace HotOptions

/-- The options that are given nothing. -/
def default : HotOptions := ⟨Field.default, []⟩

/-- Sets a field. -/
def set (options : HotOptions) (f : Field) (value : Value) : HotOptions :=
  { options with get := fun g => if g = f then value else options.get g }

@[simp] theorem get_set_self (options : HotOptions) (f : Field) (value : Value) :
    (options.set f value).get f = value := by simp [set]

@[simp] theorem get_set_of_ne (options : HotOptions) {f g : Field} (value : Value) (h : g ≠ f) :
    (options.set f value).get g = options.get g := by simp [set, h]

@[simp] theorem extra_set (options : HotOptions) (f : Field) (value : Value) :
    (options.set f value).extra = options.extra := rfl

/-- Writes an entry: into the field that its key names, or among the others. -/
def write (options : HotOptions) (key value : Value) : HotOptions :=
  match Field.ofKey? key with
  | some f => options.set f value
  | none => { options with extra := options.extra.put key value }

/-- Writes entries in turn. -/
def writeAll (options : HotOptions) (entries : Mapping) : HotOptions :=
  entries.foldl (fun o e => o.write e.1 e.2) options

/-- The entries of overrides: a value that counts as false has none, and any other value
must be a mapping. -/
def overrideEntries (overrides : Value) : Except Failure Mapping :=
  if overrides.isTruthy then
    match overrides with
    | .map entries => .ok entries
    | _ => .error .missingMember
  else .ok []

/-- Writes overrides over options. -/
def merge (options : HotOptions) (overrides : Value) : Except Failure HotOptions :=
  (overrideEntries overrides).map options.writeAll

/-! ### The marker -/

/-- Whether a value occurs in another: a text in a text, an item in a list or tuple, a
key in a mapping, a byte or a row of bytes in bytes. -/
def occursIn (value source : Value) : Except Failure Bool :=
  match source with
  | .str text =>
      match value with
      | .str pattern => .ok (Text.includes pattern text)
      | .unpaired _ => .ok false
      | _ => .error .wrongKind
  | .unpaired text =>
      match value.raw? with
      | some pattern =>
          .ok ((List.range (text.raw.length + 1)).any fun n => pattern.isPrefixOf (text.raw.drop n))
      | none => .error .wrongKind
  | .list items => .ok (items.any value.same)
  | .tuple items => .ok (items.any value.same)
  | .map entries =>
      if value.isKey then .ok (entries.any fun e => value.same e.1) else .error .wrongKind
  | .bytes bytes =>
      let holdsByte (n : Int) : Except Failure Bool :=
        if 0 ≤ n ∧ n < 256 then .ok (bytes.contains n.toNat.toUInt8) else .error .badValue
      match value with
      | .int n => holdsByte n
      | .bool b => holdsByte (if b then 1 else 0)
      | .bytes pattern =>
          .ok (Text.includes (pattern.map fun b => Char.ofNat b.toNat)
            (bytes.map fun b => Char.ofNat b.toNat))
      | _ => .error .wrongKind
  | _ => .error .wrongKind

/-- Whether the marker is given, the source is given, and the marker occurs in it. -/
def escapes (marker source : Value) : Except Failure Bool :=
  if marker.isTruthy && source.isTruthy then occursIn marker source else .ok false

/-- Merges overrides and settles whether state is kept: it is not if the options say so
or the marker occurs in the source. -/
def resolve (defaults : HotOptions) (overrides source : Value) : Run HotOptions := do
  let options ← Run.ofExcept (defaults.merge overrides)
  let marker := options.get .noPreserveStateKey
  let escaped ← Run.ofExcept (escapes marker source)
  let direct := (options.get .noPreserveState).isTruthy
  if escaped && !direct then Run.report (.markerFound marker)
  return options.set .noPreserveState (.bool (direct || escaped))

/-! ### Forms -/

/-- The fields under their names with capitals, and the other entries written over
them. -/
def toMapping (options : HotOptions) : Mapping :=
  Mapping.putAll (Field.all.map fun f => (.str f.camelName, options.get f)) options.extra

/-- The fields under their names with underscores, and the other entries written over
them. -/
def toTable (options : HotOptions) : Mapping :=
  Mapping.putAll (Field.all.map fun f => (.str f.snakeName, options.get f)) options.extra

/-- Options that are given field by field: each under its name with underscores, and the
other entries together under `extra`. -/
def ofFields (fields : Mapping) : Except Failure HotOptions :=
  fields.foldlM (fun options (key, value) =>
    match key, value with
    | .str name, value =>
        match Field.all.find? (name == ·.snakeName), value with
        | some f, value => .ok (options.set f value)
        | none, .map entries =>
            if name = "extra".toList then .ok { options with extra := entries }
            else .error .wrongKind
        | none, _ => .error .wrongKind
    | _, _ => .error .wrongKind) default

/-- The literal of the options. -/
def toJson (options : HotOptions) : Text := jsonLiteral (.map options.toMapping)

/-- The literal of the options, unless they are too large for one. -/
def toJson? (options : HotOptions) : Except Failure Text :=
  unlessExcess (Value.map options.toMapping).literalExcess? options.toJson

end HotOptions

end HotReload
