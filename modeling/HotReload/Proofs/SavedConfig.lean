import HotReload.Config
import HotReload.Proofs.Disk
import HotReload.Proofs.FieldEntries
import HotReload.Proofs.Utf8
/-!
A configuration that is saved and loaded again.

* `HotOptions.HasTable`: the other entries of options are a table without a name of a field in it.
* `HotOptions.HasTable.toTable_eq`: such options are written field by field, and entry by entry.
* `HotOptions.HasTable.same_writeAll`: reading any mapping that is equal to what is written gives
  equal options.
* `Config.load_of_save`: so does loading a file that has been saved, if the text of its table is
  read as an equal table (`Config.ReadsBack`).
-/

namespace HotReload

/-! ### Hot options -/

namespace HotOptions

/-- The other entries stand under texts, none of which names a field or stands twice. -/
structure HasTable (options : HotOptions) : Prop where
  table : IsTable options.extra
  others : ∀ e ∈ options.extra, isOtherKey e.1 = true

/-- Equality of options, as a field by field comparison finds it. -/
structure Same (options more : HotOptions) : Prop where
  fields : ∀ f, (options.get f).same (more.get f) = true
  extra : (Value.map options.extra).same (.map more.extra) = true

variable {options : HotOptions} {entries : Mapping}

/-- What is written is the fields and, behind them, the other entries. -/
lemma HasTable.toTable_eq (h : options.HasTable) :
    options.toTable = options.fieldEntries Field.snakeName ++ options.extra :=
  putAllBy_of_pairwise (pairwise_fieldEntries_append isName_snakeName h.others h.table.pairwise)

lemma HasTable.isTable_toTable (h : options.HasTable) : IsTable options.toTable := by
  rw [h.toTable_eq]
  refine .of_pairwise (List.forall_mem_append.mpr ⟨?_, h.table.texts⟩) ?_
  · exact List.forall_mem_map.mpr fun f _ => ⟨f.snakeName, rfl⟩
  · exact pairwise_fieldEntries_append isName_snakeName h.others h.table.pairwise

/-- Under the names of a field stands one entry, and it has an equal value. -/
lemma HasTable.exists_lastNamed? (h : options.HasTable)
    (hlength : options.toTable.length = entries.length)
    (hsame : Value.sameEntries options.toTable entries = true) (f : Field) :
    ∃ v, lastNamed? f entries = some v ∧ (options.get f).same v = true := by
  have hwritten : options.toTable.filter (fun e => f.isName e.1) =
      [(.str f.snakeName, options.get f)] := by
    rw [h.toTable_eq, filter_isName_fieldEntries_append isName_snakeName h.others]
  have hmem : (.str f.snakeName, options.get f) ∈ options.toTable :=
    List.mem_of_mem_filter (hwritten ▸ List.mem_singleton_self _)
  obtain ⟨v, hv, hvalue⟩ := h.isTable_toTable.exists_mem_of_same hsame hmem
  -- the mapping has the keys of the table, and of those only one is a name of the field
  have hkeys := (h.isTable_toTable.keys_perm hlength hsame).filter f.isName
  rw [List.filter_map, List.filter_map] at hkeys
  simp only [Function.comp_def, hwritten, List.map_cons, List.map_nil] at hkeys
  obtain ⟨e, he, -⟩ := List.map_eq_singleton_iff.mp (List.singleton_perm.mp hkeys).symm
  have hread : (.str f.snakeName, v) ∈ entries.filter fun e => f.isName e.1 :=
    List.mem_filter.mpr ⟨hv, isName_snakeName f⟩
  rw [he, List.mem_singleton] at hread
  refine ⟨v, ?_, hvalue⟩
  rw [lastNamed?, he, ← hread]
  rfl

/-- The other entries are those that name no field. -/
lemma HasTable.same_filter (h : options.HasTable)
    (hlength : options.toTable.length = entries.length)
    (hsame : Value.sameEntries options.toTable entries = true) :
    (Value.map options.extra).same (.map (entries.filter fun e => isOtherKey e.1)) = true := by
  have hwritten : options.toTable.filter (fun e => isOtherKey e.1) = options.extra := by
    rw [h.toTable_eq, filter_isOtherKey_fieldEntries_append isName_snakeName h.others]
  have hkeys := (h.isTable_toTable.keys_perm hlength hsame).filter isOtherKey
  rw [List.filter_map, List.filter_map] at hkeys
  simp only [Function.comp_def, hwritten] at hkeys
  have hcount := hkeys.length_eq
  rw [List.length_map, List.length_map] at hcount
  refine same_map_iff.mpr ⟨_, rfl, hcount, sameEntries_iff.mpr fun e he => ?_⟩
  have hmem : e ∈ options.toTable := List.mem_of_mem_filter (hwritten.symm ▸ he)
  obtain ⟨v, hv, hvalue⟩ := h.isTable_toTable.exists_mem_of_same hsame hmem
  obtain ⟨text, htext⟩ := h.table.texts e he
  refine ⟨(e.1, v), List.mem_filter.mpr ⟨hv, h.others e he⟩, ?_, hvalue⟩
  rw [htext]
  exact same_str_iff.mpr rfl

/-- Reading a mapping that is equal to what is written gives equal options. -/
theorem HasTable.same_writeAll (h : options.HasTable)
    (hsame : (Value.map options.toTable).same (.map entries) = true) :
    options.Same (HotOptions.default.writeAll entries) := by
  obtain ⟨more, hmore, hlength, hentries⟩ := same_map_iff.mp hsame
  obtain rfl := Value.map.inj hmore
  constructor
  · intro f
    obtain ⟨v, hlast, hvalue⟩ := h.exists_lastNamed? hlength hentries f
    rw [get_writeAll, hlast]
    exact hvalue
  · have hkeys := h.isTable_toTable.keys_perm hlength hentries
    have hpairs := (h.isTable_toTable.of_keys_perm hkeys).pairwise
    have hothers : Mapping.putAll HotOptions.default.extra
        (entries.filter fun e => isOtherKey e.1) = entries.filter fun e => isOtherKey e.1 :=
      putAllBy_nil_of_pairwise (hpairs.filter _)
    rw [extra_writeAll, hothers]
    exact h.same_filter hlength hentries

end HotOptions

/-! ### Settings -/

namespace TransformerConfig

/-- Equality of settings. -/
structure Same (c d : TransformerConfig) : Prop where
  handle : c.handle.same d.handle = true
  hotApi : c.hotApi.same d.hotApi = true
  adapter : c.adapter.same d.adapter = true
  templateDirectory : c.templateDirectory.same d.templateDirectory = true

lemma isTable_toMapping (c : TransformerConfig) : IsTable c.toMapping := by
  have hnames : (["meta", "hot_api", "adapter", "template_dir"] : List Text).Nodup := by decide
  exact .of_keys hnames rfl

/-- Reading a mapping that is equal to what is written gives equal settings. -/
lemma same_ofMapping {c : TransformerConfig} {entries : Mapping}
    (hsame : (Value.map c.toMapping).same (.map entries) = true) : c.Same (ofMapping entries) := by
  obtain ⟨more, hmore, hlength, hentries⟩ := same_map_iff.mp hsame
  obtain rfl := Value.map.inj hmore
  have hfound {name : Text} {v : Value} (hmem : (.str name, v) ∈ c.toMapping) (old : Value) :
      v.same ((Mapping.field? name entries).getD old) = true := by
    obtain ⟨w, hw, hvalue⟩ := c.isTable_toMapping.exists_field? hlength hentries hmem
    rw [hw]
    exact hvalue
  exact ⟨hfound (by simp [toMapping]) _, hfound (by simp [toMapping]) _,
    hfound (by simp [toMapping]) _, hfound (by simp [toMapping]) _⟩

end TransformerConfig

/-! ### Files -/

namespace Config

/-- Equality of configurations. -/
structure Same (c d : Config) : Prop where
  hot : c.hot.Same d.hot
  transformer : c.transformer.Same d.transformer

/-- What is written for a table is read as an equal table. -/
def ReadsBack (table : Mapping) : Prop :=
  (tomlDocument table).fault = none ∧
    ∃ entries, readToml (tomlDocument table).text = .ok entries ∧
      (Value.map table).same (.map entries) = true

/-- The directories above a path can be made, and a file with this content can be written there:
it can be opened, and there is room. -/
def IsWritable (disk : Disk) (path : Path) (content : List UInt8) : Prop :=
  ∃ made written, disk.makeDirectories path.parent (path.parts.length + 1) = (made, none) ∧
    made.store path content = (written, none)

variable {c : Config} {disk : Disk} {path : Path}

lemma isTable_toMapping (c : Config) : IsTable c.toMapping := by
  have hnames : (["hot", "transformer"] : List Text).Nodup := by decide
  exact .of_keys hnames rfl

/-- A mapping that is equal to what is written has equal sections. -/
lemma exists_tableOf {name : Text} {part entries : Mapping} (shown : Text)
    (hmem : (.str name, .map part) ∈ c.toMapping)
    (hsame : (Value.map c.toMapping).same (.map entries) = true) :
    ∃ table, tableOf name shown entries = .ok table ∧
      (Value.map part).same (.map table) = true := by
  obtain ⟨more, hmore, hlength, hentries⟩ := same_map_iff.mp hsame
  obtain rfl := Value.map.inj hmore
  obtain ⟨v, hv, hvalue⟩ := c.isTable_toMapping.exists_field? hlength hentries hmem
  obtain ⟨table, rfl, -⟩ := same_map_iff.mp hvalue
  refine ⟨table, ?_, hvalue⟩
  rw [tableOf, hv]

/-- Reading a mapping that is equal to what is written gives an equal configuration. -/
lemma exists_ofMapping (hhot : c.hot.HasTable) (shown : Text) {entries : Mapping}
    (hsame : (Value.map c.toMapping).same (.map entries) = true) :
    ∃ d, ofMapping shown entries = .ok d ∧ c.Same d := by
  have hhotMem : (.str "hot", .map c.hot.toTable) ∈ c.toMapping := by simp [toMapping]
  have hsettingsMem : (.str "transformer", .map c.transformer.toMapping) ∈ c.toMapping := by
    simp [toMapping]
  obtain ⟨hot, hhotRead, hhotSame⟩ := exists_tableOf shown hhotMem hsame
  obtain ⟨settings, hsettingsRead, hsettingsSame⟩ := exists_tableOf shown hsettingsMem hsame
  refine ⟨⟨HotOptions.default.writeAll hot, .ofMapping settings⟩, ?_, hhot.same_writeAll hhotSame,
    TransformerConfig.same_ofMapping hsettingsSame⟩
  rw [ofMapping, hhotRead, hsettingsRead]
  rfl

/-- A file that holds what is written for a table is loaded. -/
lemma readTable_of_write {written : Disk} {made : Disk} {table entries : Mapping}
    (hwrite : made.write path (tomlDocument table).text.toUtf8 = .ok written)
    (hread : readToml (tomlDocument table).text = .ok entries) :
    readTable written path = .ok entries := by
  have htext : textOfUtf8 (tomlDocument table).text.toUtf8 = .ok (tomlDocument table).text :=
    textOfUtf8_eq_ok_iff.mpr rfl
  rw [readTable, Disk.read_of_write hwrite]
  simp only [htext, hread]

/-- **Saving and loading**. A configuration whose other hot options stand under texts that name no
field is saved at every path that can be written, and loading it gives an equal configuration,
if what is written for its table is read as an equal table. -/
theorem load_of_save (hhot : c.hot.HasTable) (hreads : ReadsBack c.toMapping)
    (hwritable : IsWritable disk path (tomlDocument c.toMapping).text.toUtf8) :
    (c.save disk path).2.result = .ok () ∧
      ∃ d, (load (c.save disk path).1 path).result = .ok d ∧ c.Same d := by
  obtain ⟨made, written, hmade, hstore⟩ := hwritable
  obtain ⟨hfault, entries, hread, hsame⟩ := hreads
  have hsave : c.save disk path = (written, Run.report (.configSaved path.text)) := by
    simp only [save, hmade, hstore, hfault]
  obtain ⟨d, hd, hequal⟩ := exists_ofMapping hhot path.text hsame
  refine ⟨by rw [hsave]; rfl, d, ?_, hequal⟩
  have hwritten := Disk.write_of_store hstore
  have htable := readTable_of_write hwritten hread
  rw [hsave, load, Disk.has_of_read (Disk.read_of_write hwritten)]
  refine Run.bind_eq_ok.mpr ⟨true, rfl, ?_⟩
  simp only [htable, hd]
  rfl

/-- A configuration with nested values under names that ask for quotes, and with an entry `extra`
among the others. -/
def nestedConfig : Config where
  hot :=
    { HotOptions.default.set .cssEjectDelay (.int (-250)) with
      extra :=
        [(.str "extra", .map [(.str "a.b", .list [.int 1, .float ⟨0x3FE0000000000000⟩, "\n\"é"])]),
          (.str "", .list [.map [(.str "day", .date ⟨2024, 2, 29⟩)], .map []]),
          (.str "custom key", .bool true)] }
  transformer := { handle := "module", hotApi := "/opt/hot-api.js" }

/-- A file of any content in the working directory. -/
def oldFile : Disk :=
  { working := [], entries := [(["svelte-hmr.toml"], .file [0xFF, 0x0A])] }

theorem load_of_save_nestedConfig :
    (nestedConfig.save oldFile ⟨[], ["svelte-hmr.toml"]⟩).2.result = .ok () ∧
      ∃ d, (load (nestedConfig.save oldFile ⟨[], ["svelte-hmr.toml"]⟩).1
        ⟨[], ["svelte-hmr.toml"]⟩).result = .ok d ∧ nestedConfig.Same d := by
  have hhot : nestedConfig.hot.HasTable := by
    have hnames : (["extra", "", "custom key"] : List Text).Nodup := by decide
    exact ⟨.of_keys hnames rfl, by decide +kernel⟩
  have hfault : (tomlDocument nestedConfig.toMapping).fault.isNone = true := by decide +kernel
  have hread : (readToml (tomlDocument nestedConfig.toMapping).text).toOption.any
      (fun entries => (Value.map nestedConfig.toMapping).same (.map entries)) = true := by
    decide +kernel
  have hwritable : IsWritable oldFile ⟨[], ["svelte-hmr.toml"]⟩
      (tomlDocument nestedConfig.toMapping).text.toUtf8 :=
    ⟨oldFile, _, rfl, Prod.ext rfl (if_neg (lt_irrefl _))⟩
  obtain ⟨entries, hentries, hsame⟩ := exists_eq_ok_of_any hread
  exact load_of_save hhot ⟨Option.isNone_iff_eq_none.mp hfault, entries, hentries, hsame⟩ hwritable

end Config

end HotReload
