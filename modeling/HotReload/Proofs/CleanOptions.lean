import HotReload.Config
import HotReload.Proofs.FieldEntries
import HotReload.Proofs.Runs
/-!
Options whose other entries hide no field.

* `HotOptions.IsClean`: no key of the other entries is a name of a field.
* `HotOptions.IsClean.write` is the step: an entry that is written keeps options clean, wherever it
  goes. `HotOptions.IsClean.of_comesFrom` follows for all that becomes of options.
* `HotOptions.IsClean.toMapping_eq`, `HotOptions.IsClean.merge_toMapping`: the form that the runtime
  reads shows every field and every other entry, and gives the options back.
* `HotOptions.toMapping_of_comesFrom` says all of it.
-/

namespace HotReload

namespace HotOptions

/-- The other entries are those of a mapping, and none of their keys is a name of a field. -/
structure IsClean (options : HotOptions) : Prop where
  others : ∀ e ∈ options.extra, isOtherKey e.1 = true
  /-- No two keys of a mapping are equal. -/
  pairs : options.extra.Pairwise fun e f => f.1.same e.1 = false

/-- What becomes of options when overrides are merged into them, or resolved, any number of times,
or when they give way to those of a configuration file. -/
inductive ComesFrom (start : HotOptions) : HotOptions → Prop where
  | start : start.ComesFrom start
  | merge {options merged : HotOptions} {overrides : Value} (h : start.ComesFrom options)
      (hmerge : options.merge overrides = .ok merged) : start.ComesFrom merged
  | resolve {options resolved : HotOptions} {overrides source : Value} (h : start.ComesFrom options)
      (hresolve : (options.resolve overrides source).result = .ok resolved) :
      start.ComesFrom resolved
  | load {disk : Disk} {path : Path} {config : Config}
      (hload : (Config.load disk path).result = .ok config) : start.ComesFrom config.hot

variable {options : HotOptions}

/-! ### Staying clean -/

lemma isClean_default : HotOptions.default.IsClean where
  others := List.forall_mem_nil _
  pairs := List.Pairwise.nil

lemma IsClean.set (h : options.IsClean) (f : Field) (value : Value) : (options.set f value).IsClean :=
  ⟨h.others, h.pairs⟩

/-- An entry goes to the others only if its key names no field. -/
lemma IsClean.write (h : options.IsClean) (key value : Value) :
    (options.write key value).IsClean := by
  rw [HotOptions.write]
  cases hkey : Field.ofKey? key with
  | some f => exact h.set f value
  | none =>
      refine ⟨?_, pairwise_putBy h.pairs value⟩
      have hold : ∀ k ∈ options.extra.map Prod.fst, isOtherKey k = true :=
        List.forall_mem_map.mpr h.others
      suffices hput : ∀ k ∈ (options.extra.put key value).map Prod.fst, isOtherKey k = true from
        List.forall_mem_map.mp hput
      rw [Mapping.put, keys_putBy]
      split
      · exact hold
      · refine List.forall_mem_append.mpr ⟨hold, ?_⟩
        exact List.forall_mem_singleton.mpr (Field.ofKey?_eq_none_iff.mp hkey)

lemma IsClean.writeAll (h : options.IsClean) (entries : Mapping) :
    (options.writeAll entries).IsClean := by
  induction entries generalizing options with
  | nil => exact h
  | cons e es ih => exact ih (h.write e.1 e.2)

lemma IsClean.of_merge {overrides : Value} {merged : HotOptions} (h : options.IsClean)
    (hmerge : options.merge overrides = .ok merged) : merged.IsClean := by
  rw [merge] at hmerge
  cases hentries : overrideEntries overrides with
  | error failure => exact absurd (hentries ▸ hmerge) (by simp [Except.map])
  | ok entries =>
      obtain rfl := Except.ok.inj (hentries ▸ hmerge)
      exact h.writeAll entries

/-- Options that have been resolved come from merged ones. -/
lemma exists_of_resolve {overrides source : Value} {resolved : HotOptions}
    (h : (options.resolve overrides source).result = .ok resolved) :
    ∃ merged escaped, options.merge overrides = .ok merged ∧
      escapes (merged.get .noPreserveStateKey) source = .ok escaped ∧
      resolved = merged.set .noPreserveState
        (.bool ((merged.get .noPreserveState).isTruthy || escaped)) := by
  rw [result_resolve] at h
  obtain ⟨merged, hmerged, h⟩ := bind_eq_ok.mp h
  obtain ⟨escaped, hescaped, h⟩ := bind_eq_ok.mp h
  exact ⟨merged, escaped, hmerged, hescaped, (Except.ok.inj h).symm⟩

lemma loadFailure_ne_ok (path : Path) (fault : LoadFault) (config : Config) :
    (Config.loadFailure path fault).result ≠ .ok config := by
  cases fault <;> rintro ⟨⟩

/-- A file gives options by writing the entries of its section over the default. -/
lemma exists_of_load {disk : Disk} {path : Path} {config : Config}
    (h : (Config.load disk path).result = .ok config) :
    ∃ entries hot, Config.readTable disk path = .ok entries ∧
      Config.tableOf "hot" path.text entries = .ok hot ∧
      config.hot = HotOptions.default.writeAll hot := by
  rw [Config.load] at h
  obtain ⟨found, -, h⟩ := Run.bind_eq_ok.mp h
  cases found with
  | false => exact absurd h (by simp)
  | true =>
      rw [if_neg (by simp)] at h
      cases hread : Config.readTable disk path with
      | error fault =>
          rw [hread] at h
          exact absurd h (loadFailure_ne_ok path fault config)
      | ok entries =>
          rw [hread] at h
          obtain ⟨config, hconfig, h⟩ := Run.bind_eq_ok.mp h
          obtain ⟨-, -, h⟩ := Run.bind_eq_ok.mp h
          obtain rfl := Except.ok.inj h
          obtain ⟨hot, hhot, hconfig⟩ := bind_eq_ok.mp hconfig
          obtain ⟨settings, -, hconfig⟩ := bind_eq_ok.mp hconfig
          obtain rfl := Except.ok.inj hconfig
          exact ⟨entries, hot, rfl, hhot, rfl⟩

lemma isClean_of_load {disk : Disk} {path : Path} {config : Config}
    (h : (Config.load disk path).result = .ok config) : config.hot.IsClean := by
  obtain ⟨-, hot, -, -, hconfig⟩ := exists_of_load h
  rw [hconfig]
  exact isClean_default.writeAll hot

/-- Clean options become clean options. -/
lemma IsClean.of_comesFrom {start : HotOptions} (hstart : start.IsClean)
    (h : start.ComesFrom options) : options.IsClean := by
  induction h with
  | start => exact hstart
  | merge _ hmerge ih => exact ih.of_merge hmerge
  | resolve _ hresolve ih =>
      obtain ⟨merged, escaped, hmerged, -, rfl⟩ := exists_of_resolve hresolve
      exact (ih.of_merge hmerged).set _ _
  | load hload => exact isClean_of_load hload

/-! ### The form that the runtime reads -/

/-- The fields come first, and no other entry is written over one of them. -/
lemma IsClean.toMapping_eq (h : options.IsClean) :
    options.toMapping = options.fieldEntries Field.camelName ++ options.extra :=
  putAllBy_of_pairwise (pairwise_fieldEntries_append isName_camelName h.others h.pairs)

lemma IsClean.field?_toMapping (h : options.IsClean) (f : Field) :
    Mapping.field? f.camelName options.toMapping = some (options.get f) := by
  have hmem : (Value.str f.camelName, options.get f) ∈
      options.fieldEntries Field.camelName ++ options.extra :=
    List.mem_append_left _ (List.mem_map.mpr ⟨f, f.mem_all, rfl⟩)
  have hpairs : (options.fieldEntries Field.camelName ++ options.extra).Pairwise fun e f =>
      f.1.same e.1 = false :=
    pairwise_fieldEntries_append isName_camelName h.others h.pairs
  rw [h.toMapping_eq]
  exact getBy?_of_mem hpairs hmem (same_str_iff.mpr rfl)

/-- Written over the default, the form gives the options back. -/
lemma IsClean.merge_toMapping (h : options.IsClean) :
    HotOptions.default.merge (.map options.toMapping) = .ok options := by
  have hget : (HotOptions.default.writeAll options.toMapping).get = options.get := by
    funext f
    rw [get_writeAll, lastNamed?, h.toMapping_eq,
      filter_isName_fieldEntries_append isName_camelName h.others]
    rfl
  have hextra : (HotOptions.default.writeAll options.toMapping).extra = options.extra := by
    rw [extra_writeAll, h.toMapping_eq,
      filter_isOtherKey_fieldEntries_append isName_camelName h.others]
    exact putAllBy_nil_of_pairwise h.pairs
  have htruthy : (Value.map options.toMapping).isTruthy = true := by
    rw [h.toMapping_eq]
    rfl
  rw [merge, overrideEntries, if_pos htruthy]
  exact congrArg Except.ok (congr (congrArg HotOptions.mk hget) hextra)

/-- **No field is hidden**. Whatever comes from clean options by merging and resolving, and whatever
is loaded from a file, is clean, as the default is. Its form for the runtime has the fields in
their order, under their names with capitals, and the other entries behind them; it gives the
options back when it is merged into the default. So it shows, after options are resolved, the
truth value that was found for keeping no state. -/
theorem toMapping_of_comesFrom {start : HotOptions} (hstart : start.IsClean)
    (h : start.ComesFrom options) :
    HotOptions.default.IsClean ∧ options.IsClean ∧
      options.toMapping =
        (Field.all.map fun f => (.str f.camelName, options.get f)) ++ options.extra ∧
      (∀ f, Mapping.field? f.camelName options.toMapping = some (options.get f)) ∧
      HotOptions.default.merge (.map options.toMapping) = .ok options ∧
      ∀ overrides source resolved, (options.resolve overrides source).result = .ok resolved →
        ∃ merged escaped, options.merge overrides = .ok merged ∧
          escapes (merged.get .noPreserveStateKey) source = .ok escaped ∧
          Mapping.field? "noPreserveState" resolved.toMapping =
            some (.bool ((merged.get .noPreserveState).isTruthy || escaped)) := by
  have hclean := hstart.of_comesFrom h
  refine ⟨isClean_default, hclean, hclean.toMapping_eq, hclean.field?_toMapping,
    hclean.merge_toMapping, fun overrides source resolved hresolved => ?_⟩
  obtain ⟨merged, escaped, hmerged, hescaped, rfl⟩ := exists_of_resolve hresolved
  refine ⟨merged, escaped, hmerged, hescaped, ?_⟩
  have hshown := ((hclean.of_merge hmerged).set .noPreserveState
    (.bool ((merged.get .noPreserveState).isTruthy || escaped))).field?_toMapping .noPreserveState
  rwa [get_set_self] at hshown

/-- Options with an entry `extra` among the others, and one under a number. -/
def cleanOptions : HotOptions :=
  { HotOptions.default with extra := [(.str "extra", .map []), (.int 1, "one")] }

/-- Overrides that write a field, a new entry, and one that is there under a truth value. -/
def mixedOverrides : Mapping :=
  [(.str "no_reload", .bool true), (.str "custom", .null), (.bool true, "two")]

/-- The options with these overrides, resolved for a source with the marker in it. -/
def markedOptions : HotOptions :=
  (cleanOptions.writeAll mixedOverrides).set .noPreserveState (.bool true)

theorem toMapping_of_comesFrom_markedOptions :
    cleanOptions.IsClean ∧ cleanOptions.ComesFrom markedOptions ∧
      HotOptions.default.IsClean ∧ markedOptions.IsClean ∧
      markedOptions.toMapping =
        (Field.all.map fun f => (.str f.camelName, markedOptions.get f)) ++ markedOptions.extra ∧
      (∀ f, Mapping.field? f.camelName markedOptions.toMapping = some (markedOptions.get f)) ∧
      HotOptions.default.merge (.map markedOptions.toMapping) = .ok markedOptions ∧
      ∀ overrides source resolved, (markedOptions.resolve overrides source).result = .ok resolved →
        ∃ merged escaped, markedOptions.merge overrides = .ok merged ∧
          escapes (merged.get .noPreserveStateKey) source = .ok escaped ∧
          Mapping.field? "noPreserveState" resolved.toMapping =
            some (.bool ((merged.get .noPreserveState).isTruthy || escaped)) := by
  have hclean : cleanOptions.IsClean := ⟨by decide, by decide⟩
  have hresolve : (cleanOptions.resolve (.map mixedOverrides) (.str "<!-- @!hmr -->")).result =
      .ok markedOptions := rfl
  have hmarked : cleanOptions.ComesFrom markedOptions := .resolve .start hresolve
  exact ⟨hclean, hmarked, toMapping_of_comesFrom hclean hmarked⟩

end HotOptions

end HotReload
