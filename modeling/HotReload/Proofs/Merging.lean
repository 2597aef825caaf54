import HotReload.Proofs.Keys
import HotReload.Proofs.LastValues
import HotReload.Transformer
/-!
Options over which overrides are written, layer by layer.

* `Field.ofKey?_eq_some_iff`: a key names one field at most, in one of two spellings.
* `HotOptions.get_writeAll`, `HotOptions.extra_writeAll`: a field takes the last value that is
  written under one of its names; the other entries take their last values in their places.
* `HotOptions.foldlM_merge_eq`: a chain of overrides, each of which may be missing, writes the
  entries of all of them in turn.
* `transform_merge`: overrides may be given to a transformer or to its defaults.
* `foldlM_merge_last_wins`: what a chain leaves (`HotOptions.IsMerge`), and what it is worth to a
  transformer.
-/

namespace HotReload

/-! ### Names -/

/-- Whether a key is a name of the field. -/
def Field.isName (f : Field) : Value → Bool
  | .str name => name == f.snakeName || name == f.camelName
  | _ => false

lemma Field.mem_all (f : Field) : f ∈ Field.all := by
  cases f <;> decide

/-- No name belongs to two fields. -/
lemma Field.eq_of_isName {f g : Field} {key : Value} (hf : f.isName key = true)
    (hg : g.isName key = true) : f = g := by
  have hnames : ∀ f ∈ Field.all, ∀ g ∈ Field.all, (f.snakeName = g.snakeName ∨
      f.snakeName = g.camelName ∨ f.camelName = g.snakeName ∨ f.camelName = g.camelName) →
      f = g := by
    decide +kernel
  refine hnames f f.mem_all g g.mem_all ?_
  cases key with
  | str name =>
      simp only [Field.isName, Bool.or_eq_true, beq_iff_eq] at hf hg
      rcases hf with rfl | rfl <;> rcases hg with hg | hg <;> simp [hg]
  | _ => exact absurd hf (by simp [Field.isName])

lemma Field.ofKey?_eq_find? (key : Value) : Field.ofKey? key = Field.all.find? (·.isName key) := by
  cases key <;> rfl

lemma Field.ofKey?_eq_some_iff {f : Field} {key : Value} :
    Field.ofKey? key = some f ↔ f.isName key = true := by
  rw [Field.ofKey?_eq_find?]
  constructor
  · exact fun h => List.find?_some (p := fun g : Field => g.isName key) h
  · intro h
    cases hfound : Field.all.find? (·.isName key) with
    | none => exact absurd h (List.find?_eq_none.mp hfound f f.mem_all)
    | some g =>
        have hg : g.isName key = true := List.find?_some (p := fun g : Field => g.isName key) hfound
        rw [Field.eq_of_isName hg h]

/-- Whether a key is a name of no field. -/
def isOtherKey (key : Value) : Bool := Field.all.all fun f => !f.isName key

lemma Field.ofKey?_eq_none_iff {key : Value} :
    Field.ofKey? key = none ↔ isOtherKey key = true := by
  rw [Field.ofKey?_eq_find?, List.find?_eq_none, isOtherKey, List.all_eq_true]
  simp only [Bool.not_eq_true, Bool.not_eq_true']

lemma isName_of_isOtherKey {key : Value} (h : isOtherKey key = true) (f : Field) :
    f.isName key = false := by
  simpa using List.all_eq_true.mp h f f.mem_all

/-! ### Writing -/

namespace HotOptions

lemma writeAll_append (options : HotOptions) (entries more : Mapping) :
    options.writeAll (entries ++ more) = (options.writeAll entries).writeAll more :=
  List.foldl_append

lemma writeAll_append_singleton (options : HotOptions) (entries : Mapping) (e : Value × Value) :
    options.writeAll (entries ++ [e]) = (options.writeAll entries).write e.1 e.2 :=
  writeAll_append options entries [e]

/-- The value of the last entry under a name of the field. -/
def lastNamed? (f : Field) (entries : Mapping) : Option Value :=
  ((entries.filter fun e => f.isName e.1).getLast?).map Prod.snd

lemma get_writeAll (options : HotOptions) (entries : Mapping) (f : Field) :
    (options.writeAll entries).get f = (lastNamed? f entries).getD (options.get f) := by
  induction entries using List.reverseRecOn with
  | nil => rfl
  | append_singleton entries e ih =>
      rw [writeAll_append_singleton, write, lastNamed?, List.filter_append]
      cases hkey : Field.ofKey? e.1 with
      | none =>
          have hname := isName_of_isOtherKey (Field.ofKey?_eq_none_iff.mp hkey) f
          simp [hname, ih, lastNamed?]
      | some g =>
          have hg := Field.ofKey?_eq_some_iff.mp hkey
          -- the entry is the last one for its own field, and none for the others
          by_cases hf : f = g
          · subst hf
            simp [hg]
          · have hname : f.isName e.1 = false := by
              by_contra hname
              exact hf (Field.eq_of_isName (by simpa using hname) hg)
            simp [hname, ih, lastNamed?, get_set_of_ne, hf]

lemma extra_writeAll (options : HotOptions) (entries : Mapping) :
    (options.writeAll entries).extra =
      options.extra.putAll (entries.filter fun e => isOtherKey e.1) := by
  induction entries using List.reverseRecOn with
  | nil => rfl
  | append_singleton entries e ih =>
      rw [writeAll_append_singleton, write, List.filter_append]
      cases hkey : Field.ofKey? e.1 with
      | none =>
          rw [List.filter_singleton, Field.ofKey?_eq_none_iff.mp hkey]
          simp only [ih, cond_true]
          exact (putAllBy_append_singleton _ _ _ _ _).symm
      | some f =>
          have hother : isOtherKey e.1 = false := by
            rw [Bool.eq_false_iff]
            intro hother
            exact absurd (Field.ofKey?_eq_none_iff.mpr hother) (by simp [hkey])
          rw [List.filter_singleton, hother]
          simpa using ih

end HotOptions

/-! ### Chains of overrides -/

/-- Overrides that are missing or empty, or a mapping. -/
def IsOverrides (overrides : Value) : Prop :=
  overrides.isTruthy = false ∨
    ∃ entries, overrides = .map entries ∧ ∀ e ∈ entries, e.1.isKey = true

/-- The entries of overrides. -/
def Value.entries : Value → Mapping
  | .map entries => entries
  | _ => []

lemma entries_of_falsy {v : Value} (h : v.isTruthy = false) : v.entries = [] := by
  cases v with
  | map entries => simpa [Value.isTruthy, Value.entries] using h
  | _ => rfl

lemma overrideEntries_of_isOverrides {overrides : Value} (h : IsOverrides overrides) :
    HotOptions.overrideEntries overrides = .ok overrides.entries := by
  unfold HotOptions.overrideEntries
  cases htruthy : overrides.isTruthy with
  | true =>
      rcases h with hfalsy | ⟨entries, rfl, -⟩
      · exact absurd (htruthy.symm.trans hfalsy) (by simp)
      · rfl
  | false =>
      rw [entries_of_falsy htruthy]
      rfl

lemma isKey_of_mem_entries {overrides : Value} (h : IsOverrides overrides) :
    ∀ e ∈ overrides.entries, e.1.isKey = true := by
  rcases h with hfalsy | ⟨entries, rfl, hkeys⟩
  · simp [entries_of_falsy hfalsy]
  · exact hkeys

lemma isKeyEquality_same : IsKeyEquality Value.same fun key => key.isKey = true where
  symm := fun ha _ h => Value.same_symm ha h
  trans := fun ha hb _ hab hbc => Value.same_trans ha hb hab hbc

namespace HotOptions

/-- The other entries stand under keys, no two of which are equal. -/
structure IsKeyed (options : HotOptions) : Prop where
  keys : ∀ e ∈ options.extra, e.1.isKey = true
  pairs : options.extra.Pairwise fun e f => f.1.same e.1 = false

/-- The options `merged` come from the options by entries that are read in turn. Each field has
the value of the last entry under one of its two names. The other entries follow those of the
options: every key stands once, where it stands first, with the value that it has last. -/
structure IsMerge (options : HotOptions) (reading : Mapping) (merged : HotOptions) : Prop where
  get : ∀ f, merged.get f = (lastNamed? f reading).getD (options.get f)
  extra : merged.extra =
    lastValuesBy Value.same (options.extra ++ reading.filter fun e => isOtherKey e.1)
  keys : options.extra.map Prod.fst <+: merged.extra.map Prod.fst

lemma isMerge_writeAll {options : HotOptions} (h : options.IsKeyed) {entries : Mapping}
    (hentries : ∀ e ∈ entries, e.1.isKey = true) :
    options.IsMerge entries (options.writeAll entries) where
  get := get_writeAll options entries
  extra := by
    have hothers : ∀ e ∈ entries.filter fun e => isOtherKey e.1, e.1.isKey = true :=
      fun e he => hentries e (List.mem_filter.mp he).1
    rw [extra_writeAll]
    exact putAllBy_eq_lastValuesBy isKeyEquality_same h.pairs h.keys hothers
  keys := by
    rw [extra_writeAll]
    exact keys_prefix_putAllBy _ _

/-- Resolving merges the overrides, looks for the marker, and sets the one field. -/
lemma result_resolve (options : HotOptions) (overrides source : Value) :
    (options.resolve overrides source).result =
      (options.merge overrides).bind fun merged =>
        (escapes (merged.get .noPreserveStateKey) source).bind fun escaped =>
          .ok (merged.set .noPreserveState
            (.bool ((merged.get .noPreserveState).isTruthy || escaped))) := by
  rw [resolve, Run.result_bind, Run.result_ofExcept]
  congr 1
  funext merged
  rw [Run.result_bind, Run.result_ofExcept]
  congr 1
  funext escaped
  dsimp only
  split <;> rfl

lemma merge_of_isOverrides (options : HotOptions) {overrides : Value} (h : IsOverrides overrides) :
    options.merge overrides = .ok (options.writeAll overrides.entries) := by
  rw [merge, overrideEntries_of_isOverrides h]
  rfl

/-- A chain of overrides writes the entries of all of them in turn. -/
lemma foldlM_merge_eq (options : HotOptions) {layers : List Value}
    (h : ∀ overrides ∈ layers, IsOverrides overrides) :
    layers.foldlM merge options = .ok (options.writeAll (layers.flatMap Value.entries)) := by
  induction layers generalizing options with
  | nil => rfl
  | cons overrides layers ih =>
      rw [List.forall_mem_cons] at h
      rw [List.foldlM_cons, merge_of_isOverrides options h.1, List.flatMap_cons, writeAll_append]
      exact ih _ h.2

end HotOptions

/-! ### The last entry wins -/

/-- Overrides of a component may as well be written over the defaults of its transformer. -/
lemma transform_merge {t : Transformer} {component : Component} {merged : HotOptions}
    (h : t.defaults.merge component.hotOptions = .ok merged) (disk : Disk) :
    t.transform disk component =
      { t with defaults := merged }.transform disk { component with hotOptions := .null } := by
  have hnull : merged.merge .null = .ok merged := rfl
  simp only [Transformer.transform, Transformer.activation, Transformer.codeOf,
    HotOptions.resolve, h, hnull]

/-- **Merging a chain of overrides**. Over a chain of overrides the last entry wins, for each field
under both its names and for each other key, whatever layers are missing or empty. A transformer
with the options makes with overrides what one with the merged options makes without. -/
theorem foldlM_merge_last_wins {options : HotOptions} (hoptions : options.IsKeyed)
    {layers : List Value} (hlayers : ∀ overrides ∈ layers, IsOverrides overrides) :
    (∃ merged, layers.foldlM HotOptions.merge options = .ok merged ∧
      options.IsMerge (layers.flatMap Value.entries) merged) ∧
      ∀ (t : Transformer) (component : Component), t.defaults = options →
        IsOverrides component.hotOptions →
        ∃ merged, options.merge component.hotOptions = .ok merged ∧ ∀ disk,
          t.transform disk component =
            { t with defaults := merged }.transform disk
              { component with hotOptions := .null } := by
  constructor
  · refine ⟨_, HotOptions.foldlM_merge_eq options hlayers,
      HotOptions.isMerge_writeAll hoptions fun e he => ?_⟩
    obtain ⟨overrides, hmem, hentry⟩ := List.mem_flatMap.mp he
    exact isKey_of_mem_entries (hlayers overrides hmem) e hentry
  · rintro t component rfl hoverrides
    have hmerge := HotOptions.merge_of_isOverrides t.defaults hoverrides
    exact ⟨_, hmerge, transform_merge hmerge⟩

/-- Options with two other entries. -/
def extendedOptions : HotOptions :=
  { HotOptions.default with extra := [(.int 1, "a"), (.str "x", .null)] }

/-- Overrides that write fields and other entries more than once: the truth value, the integer
and the double are one key, so is a function or a number that is none wherever the same object
stands, and one that is made anew is a new key each time. -/
def overrideLayers : List Value :=
  [.null,
    .map [(.str "noReload", .bool true), (.bool true, "b"), (.str "no_reload", .int 0),
      (.function 1, "f"), (.nan 1, "g")],
    .map [],
    .map [(.float Double.nan, "n"), (.float ⟨0x3FF0000000000000⟩, "c"), (.str "optimistic", .null),
      (.float Double.nan, "m"), (.nan 1, "h"), (.function 2, "k"), (.function 1, "l")]]

/-- The other entries that the overrides leave: each key where it stands first, with its last
value. -/
example :
    (overrideLayers.foldlM HotOptions.merge extendedOptions).map (·.extra.map fun e =>
      (e.1.quoted, e.2.display)) =
      .ok [("1", "c"), ("'x'", "None"), ("<function>", "l"), ("nan", "h"), ("nan", "n"),
        ("nan", "m"), ("<function>", "k")] := by
  decide +kernel

theorem foldlM_merge_overrideLayers :
    (∃ merged, overrideLayers.foldlM HotOptions.merge extendedOptions = .ok merged ∧
      extendedOptions.IsMerge (overrideLayers.flatMap Value.entries) merged) ∧
      ∀ (t : Transformer) (component : Component), t.defaults = extendedOptions →
        IsOverrides component.hotOptions →
        ∃ merged, extendedOptions.merge component.hotOptions = .ok merged ∧ ∀ disk,
          t.transform disk component =
            { t with defaults := merged }.transform disk
              { component with hotOptions := .null } := by
  refine foldlM_merge_last_wins ⟨by decide, by decide⟩ ?_
  simp only [overrideLayers, List.forall_mem_cons]
  refine ⟨.inl rfl, .inr ⟨_, rfl, by decide⟩, .inl rfl, .inr ⟨_, rfl, by decide⟩, ?_⟩
  exact fun e he => absurd he List.not_mem_nil

end HotReload
