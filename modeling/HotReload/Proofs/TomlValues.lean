import HotReload.Command
import HotReload.Proofs.CleanOptions
import HotReload.Proofs.Doubles.Special
/-!
The values that a document can hold.

* `Value.IsToml`: truth values, numbers, texts, dates and times, and arrays and tables of such
  values. In a table no key stands twice (`IsTomlTable`).
* `isToml_of_readTomlValue`: a value that is read is one of them. It goes with the items of an
  array, a pair, and the pairs of an inline table.
* `IsTomlTable.changeAt`: a table stays one when it is changed somewhere inside.
  `TomlDocument.isTomlTable_of_readStatement` is the step from that for a statement, and
  `isTomlTable_of_readToml` follows for a document.
* `HotOptions.isToml_of_load`: so the options of a configuration file are of such values, and
  their form for the runtime is a table (`HotOptions.IsToml.isTomlTable_toMapping`).
-/

namespace HotReload

/-- What a document can hold. There is one double that is no number. -/
inductive Value.IsToml : Value → Prop where
  | bool (b : Bool) : IsToml (.bool b)
  | int (n : Int) : IsToml (.int n)
  | float {x : Double} (h : x.isNaN = true → x = .nan) : IsToml (.float x)
  | str (text : Text) : IsToml (.str text)
  | date (d : Date) : IsToml (.date d)
  | time (t : Time) : IsToml (.time t)
  | moment (m : Moment) : IsToml (.moment m)
  | list {items : List Value} (h : ∀ v ∈ items, IsToml v) : IsToml (.list items)
  | map {entries : Mapping} (htable : IsTable entries) (h : ∀ e ∈ entries, IsToml e.2) :
      IsToml (.map entries)

/-- A table of such values. -/
structure IsTomlTable (table : Mapping) : Prop where
  isTable : IsTable table
  values : ∀ e ∈ table, e.2.IsToml

variable {table after : Mapping}

lemma Value.isToml_map_iff : (Value.map table).IsToml ↔ IsTomlTable table := by
  constructor
  · rintro (_ | _ | _ | _ | _ | _ | _ | _ | ⟨htable, h⟩)
    exact ⟨htable, h⟩
  · exact fun h => .map h.isTable h.values

lemma Value.IsToml.of_list {items : List Value} (h : (Value.list items).IsToml) :
    ∀ v ∈ items, v.IsToml := by
  cases h with
  | list h => exact h

/-! ### Tables -/

lemma isTomlTable_nil : IsTomlTable [] :=
  ⟨⟨List.forall_mem_nil _, List.nodup_nil⟩, List.forall_mem_nil _⟩

lemma IsTable.put (h : IsTable table) (name : Text) (value : Value) :
    IsTable (Mapping.put (.str name) value table) := by
  have hkeys : (Mapping.put (.str name) value table).map Prod.fst =
      if table.any (fun e => (Value.str name).same e.1) then table.map Prod.fst
      else table.map Prod.fst ++ [.str name] := by
    rw [Mapping.put, keys_putBy]
  have htexts : ∀ key ∈ table.map Prod.fst, ∃ text, key = .str text :=
    List.forall_mem_map.mpr h.texts
  suffices hput : (∀ key ∈ (Mapping.put (.str name) value table).map Prod.fst,
      ∃ text, key = .str text) ∧ ((Mapping.put (.str name) value table).map Prod.fst).Nodup from
    ⟨fun e he => hput.1 e.1 (List.mem_map_of_mem he), hput.2⟩
  rw [hkeys]
  split
  · exact ⟨htexts, h.nodup⟩
  · next hnew =>
      have hname : Value.str name ∉ table.map Prod.fst := by
        intro hmem
        obtain ⟨e, he, hkey⟩ := List.mem_map.mp hmem
        exact hnew (List.any_eq_true.mpr ⟨e, he, same_str_iff.mpr hkey⟩)
      constructor
      · exact List.forall_mem_append.mpr ⟨htexts, List.forall_mem_singleton.mpr ⟨name, rfl⟩⟩
      · exact h.nodup.append (List.nodup_singleton _) (List.disjoint_singleton.mpr hname)

lemma IsTomlTable.put (h : IsTomlTable table) (name : Text) {value : Value}
    (hvalue : value.IsToml) : IsTomlTable (Mapping.put (.str name) value table) where
  isTable := h.isTable.put name value
  values := fun e he => by
    rcases exists_mem_of_mem_putBy he with heq | hmem
    · exact heq ▸ hvalue
    · exact h.values e hmem

lemma IsTomlTable.isToml_of_field? (h : IsTomlTable table) {name : Text} {value : Value}
    (hfield : Mapping.field? name table = some value) : value.IsToml := by
  obtain ⟨e, he, rfl⟩ := exists_mem_of_getBy? hfield
  exact h.values e he

/-! ### Values that are read -/

variable {text rest : Text} {fuel steps : ℕ} {value : Value}

lemma orMalformed_eq_ok {α : Type} {found : Option α} {a : α} :
    orMalformed found = .ok a ↔ found = some a := by
  cases found <;> simp [orMalformed]

lemma isToml_ofParts (negative : Bool) (whole fraction : List ℕ) (power : Int) :
    (Value.float (.ofParts negative whole fraction power)).IsToml := by
  refine .float fun hnan => ?_
  rw [Double.ofParts, Double.isNaN_ofDecimal] at hnan
  exact absurd hnan Bool.false_ne_true

lemma isToml_of_readBased (h : readBased text = some (value, rest)) : value.IsToml := by
  rw [readBased.eq_def] at h
  split at h
  · obtain ⟨found, -, hfound⟩ := Option.map_eq_some_iff.mp h
    obtain ⟨rfl, -⟩ := Prod.mk.inj hfound
    exact .int _
  · exact absurd h (by simp)

lemma isToml_of_readTomlDecimal (h : readTomlDecimal text = some (value, rest)) :
    value.IsToml := by
  rw [readTomlDecimal] at h
  generalize readSign text = sign at h
  obtain ⟨⟨whole, afterWhole⟩, -, h⟩ := Option.bind_eq_some_iff.mp h
  dsimp only at h
  split at h
  · obtain ⟨rfl, -⟩ := Prod.mk.inj (Option.some.inj h)
    exact isToml_ofParts _ _ _ _
  · split at h
    · obtain ⟨rfl, -⟩ := Prod.mk.inj (Option.some.inj h)
      exact isToml_ofParts _ _ _ _
    · obtain ⟨rfl, -⟩ := Prod.mk.inj (Option.some.inj h)
      exact .int _

lemma isToml_of_readTomlSpecial (h : readTomlSpecial text = some (value, rest)) :
    value.IsToml := by
  rw [readTomlSpecial] at h
  generalize readSign text = sign at h
  dsimp only at h
  split_ifs at h
  · obtain ⟨rfl, -⟩ := Prod.mk.inj (Option.some.inj h)
    refine .float fun hnan => ?_
    rw [Double.infinity, Double.isNaN_withSign _ le_rfl] at hnan
    exact absurd hnan Bool.false_ne_true
  · obtain ⟨rfl, -⟩ := Prod.mk.inj (Option.some.inj h)
    exact .float fun _ => rfl

lemma isToml_of_readTomlDate (h : readTomlDate text = some (some (value, rest))) :
    value.IsToml := by
  rw [readTomlDate] at h
  split at h
  · split at h
    · exact absurd h (by simp)
    · split at h
      · obtain ⟨rfl, -⟩ := Prod.mk.inj (Option.some.inj (Option.some.inj h))
        exact .moment _
      · obtain ⟨rfl, -⟩ := Prod.mk.inj (Option.some.inj (Option.some.inj h))
        exact .date _
  · split at h
    · obtain ⟨rfl, -⟩ := Prod.mk.inj (Option.some.inj (Option.some.inj h))
      exact .time _
    · exact absurd h (by simp)

lemma isToml_of_readTomlNumber (h : readTomlNumber text = .ok (value, rest)) : value.IsToml := by
  rw [readTomlNumber] at h
  split at h
  · next hbased =>
      obtain rfl := Except.ok.inj h
      exact isToml_of_readBased hbased
  · split at h
    · split_ifs at h
      obtain ⟨rfl, -⟩ := Prod.mk.inj (Except.ok.inj h)
      exact .int _
    · next hdecimal =>
        obtain rfl := Except.ok.inj h
        exact isToml_of_readTomlDecimal hdecimal
    · exact isToml_of_readTomlSpecial (orMalformed_eq_ok.mp h)

lemma isToml_of_readTomlScalar (h : readTomlScalar text = .ok (value, rest)) : value.IsToml := by
  rw [readTomlScalar] at h
  split_ifs at h
  · obtain ⟨rfl, -⟩ := Prod.mk.inj (Except.ok.inj h)
    exact .bool true
  · obtain ⟨rfl, -⟩ := Prod.mk.inj (Except.ok.inj h)
    exact .bool false
  · split at h
    · next hdate =>
        rw [orMalformed_eq_ok.mp h] at hdate
        exact isToml_of_readTomlDate hdate
    · exact isToml_of_readTomlNumber h

/-! ### Tables that are changed -/

/-- A table stays one when a table inside it does. -/
lemma IsTomlTable.changeAt {throughLists : Bool} {change : Mapping → Option Mapping}
    (hchange : ∀ {inner changed}, IsTomlTable inner → change inner = some changed →
      IsTomlTable changed)
    {path : TomlPath} (htable : IsTomlTable table)
    (h : changeAt throughLists change path table = some after) : IsTomlTable after := by
  -- along the path, the table below each name is changed and written back
  induction path generalizing table after with
  | nil => exact hchange htable h
  | cons name path ih =>
      rw [HotReload.changeAt] at h
      split at h
      · obtain ⟨changed, hchanged, rfl⟩ := Option.map_eq_some_iff.mp h
        exact htable.put name (Value.isToml_map_iff.mpr (ih isTomlTable_nil hchanged))
      · next inner hfield =>
          obtain ⟨changed, hchanged, rfl⟩ := Option.map_eq_some_iff.mp h
          have hinner := Value.isToml_map_iff.mp (htable.isToml_of_field? hfield)
          exact htable.put name (Value.isToml_map_iff.mpr (ih hinner hchanged))
      · next items hfield =>
          split_ifs at h
          split at h
          · next inner hlast =>
              obtain ⟨changed, hchanged, rfl⟩ := Option.map_eq_some_iff.mp h
              have hitems := (htable.isToml_of_field? hfield).of_list
              have hinner := Value.isToml_map_iff.mp (hitems _ (List.mem_of_getLast? hlast))
              refine htable.put name (.list (List.forall_mem_append.mpr ⟨?_, ?_⟩))
              · exact fun v hv => hitems v (List.mem_of_mem_dropLast hv)
              · exact List.forall_mem_singleton.mpr
                  (Value.isToml_map_iff.mpr (ih hinner hchanged))
          · exact absurd h (by simp)
      · exact absurd h (by simp)

lemma IsTomlTable.addNew (htable : IsTomlTable table) {name : Text} (hvalue : value.IsToml)
    (h : addNew name value table = some after) : IsTomlTable after := by
  rw [HotReload.addNew] at h
  split at h
  · exact absurd h (by simp)
  · obtain rfl := Option.some.inj h
    exact htable.put name hvalue

lemma IsTomlTable.addElement (htable : IsTomlTable table) {name : Text}
    (h : addElement name table = some after) : IsTomlTable after := by
  have hempty : ∀ v ∈ [Value.map []], v.IsToml :=
    List.forall_mem_singleton.mpr (Value.isToml_map_iff.mpr isTomlTable_nil)
  rw [HotReload.addElement] at h
  split at h
  · obtain rfl := Option.some.inj h
    exact htable.put name (.list hempty)
  · next items hfield =>
      obtain rfl := Option.some.inj h
      have hitems := (htable.isToml_of_field? hfield).of_list
      exact htable.put name (.list (List.forall_mem_append.mpr ⟨hitems, hempty⟩))
  · exact absurd h (by simp)

mutual

/-- A value that is read is one that a document can hold. -/
theorem isToml_of_readTomlValue :
    (fuel : ℕ) → {steps : ℕ} → {text rest : Text} → {value : Value} →
      readTomlValue steps fuel text = .ok (value, rest) → value.IsToml
  | 0, _, _, _, _, h => absurd h (by simp [readTomlValue])
  | fuel + 1, steps, text, rest, value, h => by
      rw [readTomlValue.eq_def] at h
      dsimp only at h
      -- a text in one kind of quotes or the other, an array, an inline table, or a scalar
      split at h
      · obtain ⟨found, -, hfound⟩ := Option.map_eq_some_iff.mp (orMalformed_eq_ok.mp h)
        obtain ⟨rfl, -⟩ := Prod.mk.inj hfound
        exact .str _
      · obtain ⟨found, -, hfound⟩ := Option.map_eq_some_iff.mp (orMalformed_eq_ok.mp h)
        obtain ⟨rfl, -⟩ := Prod.mk.inj hfound
        exact .str _
      · split_ifs at h
        obtain ⟨inner, -, h⟩ := bind_eq_ok.mp h
        obtain ⟨⟨items, afterItems⟩, hitems, h⟩ := bind_eq_ok.mp h
        obtain ⟨rfl, -⟩ := Prod.mk.inj (Except.ok.inj h)
        exact .list (isToml_of_readTomlItems fuel hitems)
      · split_ifs at h
        split at h
        · obtain ⟨rfl, -⟩ := Prod.mk.inj (Except.ok.inj h)
          exact Value.isToml_map_iff.mpr isTomlTable_nil
        · obtain ⟨⟨pairs, afterPairs⟩, hpairs, hvalue⟩ := map_eq_ok.mp h
          obtain ⟨rfl, -⟩ := Prod.mk.inj hvalue
          exact Value.isToml_map_iff.mpr (isTomlTable_of_readTomlPairs fuel isTomlTable_nil hpairs)
      · exact isToml_of_readTomlScalar h

lemma isToml_of_readTomlItems :
    (fuel : ℕ) → {steps : ℕ} → {text rest : Text} → {items : List Value} →
      readTomlItems steps fuel text = .ok (items, rest) → ∀ v ∈ items, v.IsToml
  | 0, _, _, _, _, h => absurd h (by simp [readTomlItems])
  | fuel + 1, steps, text, rest, items, h => by
      rw [readTomlItems.eq_def] at h
      dsimp only at h
      split at h
      · obtain ⟨rfl, -⟩ := Prod.mk.inj (Except.ok.inj h)
        exact List.forall_mem_nil _
      · obtain ⟨⟨item, afterItem⟩, hitem, h⟩ := bind_eq_ok.mp h
        obtain ⟨next, -, h⟩ := bind_eq_ok.mp h
        have hfirst := isToml_of_readTomlValue fuel hitem
        split at h
        · obtain ⟨rfl, -⟩ := Prod.mk.inj (Except.ok.inj h)
          exact List.forall_mem_singleton.mpr hfirst
        · obtain ⟨inner, -, h⟩ := bind_eq_ok.mp h
          obtain ⟨⟨more, afterMore⟩, hmore, h⟩ := bind_eq_ok.mp h
          obtain ⟨rfl, -⟩ := Prod.mk.inj (Except.ok.inj h)
          exact List.forall_mem_cons.mpr ⟨hfirst, isToml_of_readTomlItems fuel hmore⟩
        · exact absurd h (by simp)

lemma isToml_of_readTomlPair :
    (fuel : ℕ) → {steps : ℕ} → {text rest : Text} → {key : TomlPath} → {value : Value} →
      readTomlPair steps fuel text = .ok ((key, value), rest) → value.IsToml
  | 0, _, _, _, _, _, h => absurd h (by simp [readTomlPair])
  | fuel + 1, steps, text, rest, key, value, h => by
      rw [readTomlPair] at h
      obtain ⟨⟨path, afterPath⟩, -, h⟩ := bind_eq_ok.mp h
      dsimp only at h
      split at h
      · obtain ⟨⟨found, afterValue⟩, hvalue, h⟩ := bind_eq_ok.mp h
        obtain ⟨hpair, -⟩ := Prod.mk.inj (Except.ok.inj h)
        obtain ⟨-, rfl⟩ := Prod.mk.inj hpair
        exact isToml_of_readTomlValue fuel hvalue
      · exact absurd h (by simp)

lemma isTomlTable_of_readTomlPairs :
    (fuel : ℕ) → {steps : ℕ} → {text rest : Text} → {table after : Mapping} → {marks : TomlMarks} →
      IsTomlTable table → readTomlPairs steps fuel table marks text = .ok (after, rest) →
      IsTomlTable after
  | 0, _, _, _, _, _, _, _, h => absurd h (by simp [readTomlPairs])
  | fuel + 1, steps, text, rest, table, after, marks, htable, h => by
      rw [readTomlPairs] at h
      obtain ⟨⟨⟨key, value⟩, afterPair⟩, hpair, h⟩ := bind_eq_ok.mp h
      dsimp only at h
      split at h
      · exact absurd h (by simp)
      · obtain ⟨changed, hchanged, h⟩ := bind_eq_ok.mp h
        have hvalue := isToml_of_readTomlPair fuel hpair
        have hwritten : IsTomlTable changed :=
          htable.changeAt (fun hinner hnew => hinner.addNew hvalue hnew)
            (orMalformed_eq_ok.mp hchanged)
        split at h
        · obtain ⟨rfl, -⟩ := Prod.mk.inj (Except.ok.inj h)
          exact hwritten
        · exact isTomlTable_of_readTomlPairs fuel hwritten h
        · exact absurd h (by simp)

end

/-! ### Documents -/

namespace TomlDocument

variable {doc next : TomlDocument}

lemma isTomlTable_of_addPair (hdoc : IsTomlTable doc.root) {key : TomlPath} (hvalue : value.IsToml)
    (h : doc.addPair key value = some next) : IsTomlTable next.root := by
  rw [addPair] at h
  split at h
  · exact absurd h (by simp)
  · split at h
    · exact absurd h (by simp)
    · obtain ⟨root, hroot, h⟩ := Option.bind_eq_some_iff.mp h
      obtain rfl := Option.some.inj h
      exact hdoc.changeAt (fun hinner hnew => hinner.addNew hvalue hnew) hroot

lemma isTomlTable_of_openTable (hdoc : IsTomlTable doc.root) {key : TomlPath}
    (h : doc.openTable key = some next) : IsTomlTable next.root := by
  rw [openTable] at h
  split_ifs at h
  obtain ⟨root, hroot, h⟩ := Option.bind_eq_some_iff.mp h
  obtain rfl := Option.some.inj h
  exact IsTomlTable.changeAt (fun hinner hsame => Option.some.inj hsame ▸ hinner) hdoc hroot

lemma isTomlTable_of_openElement (hdoc : IsTomlTable doc.root) {key : TomlPath}
    (h : doc.openElement key = some next) : IsTomlTable next.root := by
  rw [openElement] at h
  split_ifs at h
  obtain ⟨root, hroot, h⟩ := Option.bind_eq_some_iff.mp h
  obtain rfl := Option.some.inj h
  exact IsTomlTable.changeAt (fun hinner hnew => hinner.addElement hnew) hdoc hroot

lemma isTomlTable_of_readHeader (hdoc : IsTomlTable doc.root)
    (h : readHeader doc text = some (next, rest)) : IsTomlTable next.root := by
  rw [readHeader.eq_def] at h
  split at h
  · obtain ⟨⟨key, afterKey⟩, -, h⟩ := Option.bind_eq_some_iff.mp h
    obtain ⟨opened, hopened, h⟩ := Option.bind_eq_some_iff.mp h
    obtain ⟨inner, -, h⟩ := Option.bind_eq_some_iff.mp h
    obtain ⟨outer, -, h⟩ := Option.bind_eq_some_iff.mp h
    obtain ⟨rfl, -⟩ := Prod.mk.inj (Option.some.inj h)
    exact isTomlTable_of_openElement hdoc hopened
  · obtain ⟨⟨key, afterKey⟩, -, h⟩ := Option.bind_eq_some_iff.mp h
    obtain ⟨opened, hopened, h⟩ := Option.bind_eq_some_iff.mp h
    obtain ⟨inner, -, h⟩ := Option.bind_eq_some_iff.mp h
    obtain ⟨rfl, -⟩ := Prod.mk.inj (Option.some.inj h)
    exact isTomlTable_of_openTable hdoc hopened

/-- A statement keeps the root a table. -/
lemma isTomlTable_of_readStatement (hdoc : IsTomlTable doc.root)
    (h : readStatement doc text = .ok (next, rest)) : IsTomlTable next.root := by
  rw [readStatement.eq_def] at h
  split at h
  · exact isTomlTable_of_readHeader hdoc (orMalformed_eq_ok.mp h)
  · obtain ⟨rfl, -⟩ := Prod.mk.inj (Except.ok.inj h)
    exact hdoc
  · obtain ⟨⟨⟨key, value⟩, afterPair⟩, hpair, h⟩ := bind_eq_ok.mp h
    obtain ⟨added, hadded, h⟩ := bind_eq_ok.mp h
    obtain ⟨rfl, -⟩ := Prod.mk.inj (Except.ok.inj h)
    exact isTomlTable_of_addPair hdoc (isToml_of_readTomlPair _ hpair) (orMalformed_eq_ok.mp hadded)

lemma isTomlTable_of_readStatements (hdoc : IsTomlTable doc.root)
    (h : readStatements doc fuel text = .ok next) : IsTomlTable next.root := by
  induction fuel generalizing doc text with
  | zero => exact absurd h (by simp [readStatements])
  | succ fuel ih =>
      rw [readStatements] at h
      split at h
      · obtain rfl := Except.ok.inj h
        exact hdoc
      · exact ih hdoc h
      · obtain ⟨⟨read, afterStatement⟩, hread, h⟩ := bind_eq_ok.mp h
        obtain ⟨remaining, -, h⟩ := bind_eq_ok.mp h
        have hstatement := isTomlTable_of_readStatement hdoc hread
        split at h
        · obtain rfl := Except.ok.inj h
          exact hstatement
        · exact ih hstatement h
        · exact absurd h (by simp)

end TomlDocument

/-- A document holds a table. -/
theorem isTomlTable_of_readToml (h : readToml text = .ok table) : IsTomlTable table := by
  obtain ⟨doc, hdoc, rfl⟩ := map_eq_ok.mp h
  exact TomlDocument.isTomlTable_of_readStatements isTomlTable_nil hdoc

/-! ### Options of a configuration -/

namespace HotOptions

variable {options : HotOptions}

/-- The values of options are ones that a document can hold. -/
structure IsToml (options : HotOptions) : Prop where
  fields : ∀ f, (options.get f).IsToml
  extra : IsTomlTable options.extra

lemma isToml_default : HotOptions.default.IsToml where
  fields := fun f => by
    cases f
    all_goals first
      | exact .bool _
      | exact .int _
      | exact .str _
  extra := isTomlTable_nil

lemma IsToml.set (h : options.IsToml) (f : Field) (hvalue : value.IsToml) :
    (options.set f value).IsToml where
  fields := fun g => by
    by_cases hg : g = f
    · rw [hg, get_set_self]
      exact hvalue
    · rw [get_set_of_ne options value hg]
      exact h.fields g
  extra := h.extra

lemma IsToml.write (h : options.IsToml) (name : Text) (hvalue : value.IsToml) :
    (options.write (.str name) value).IsToml := by
  rw [HotOptions.write]
  split
  · exact h.set _ hvalue
  · exact ⟨h.fields, h.extra.put name hvalue⟩

lemma IsToml.writeAll (h : options.IsToml) {entries : Mapping}
    (htexts : ∀ e ∈ entries, ∃ text, e.1 = .str text) (hvalues : ∀ e ∈ entries, e.2.IsToml) :
    (options.writeAll entries).IsToml := by
  induction entries generalizing options with
  | nil => exact h
  | cons e entries ih =>
      rw [List.forall_mem_cons] at htexts hvalues
      obtain ⟨name, hname⟩ := htexts.1
      have hwritten := h.write name hvalues.1
      rw [← hname] at hwritten
      exact ih hwritten htexts.2 hvalues.2

/-- The form that the runtime reads is a table. -/
lemma IsToml.isTomlTable_toMapping (h : options.IsToml) (hclean : options.IsClean) :
    IsTomlTable options.toMapping := by
  rw [hclean.toMapping_eq]
  refine ⟨.of_pairwise ?_ ?_, ?_⟩
  · refine List.forall_mem_append.mpr ⟨?_, h.extra.isTable.texts⟩
    exact List.forall_mem_map.mpr fun f _ => ⟨f.camelName, rfl⟩
  · exact pairwise_fieldEntries_append isName_camelName hclean.others hclean.pairs
  · refine List.forall_mem_append.mpr ⟨?_, h.extra.values⟩
    exact List.forall_mem_map.mpr fun f _ => h.fields f

lemma isToml_of_load {disk : Disk} {path : Path} {config : Config}
    (h : (Config.load disk path).result = .ok config) : config.hot.IsToml := by
  obtain ⟨entries, hot, hread, hhot, hconfig⟩ := exists_of_load h
  have hentries : IsTomlTable entries := by
    rw [Config.readTable] at hread
    split at hread
    · exact absurd hread (by simp)
    · split at hread
      · exact absurd hread (by simp)
      · split at hread
        · exact absurd hread (by simp)
        · exact absurd hread (by simp)
        · next htoml =>
            obtain rfl := Except.ok.inj hread
            exact isTomlTable_of_readToml htoml
  -- the section is a value of the document, or missing
  have htable : IsTomlTable hot := by
    rw [Config.tableOf] at hhot
    split at hhot
    · obtain rfl := Except.ok.inj hhot
      exact isTomlTable_nil
    · next hfield =>
        obtain rfl := Except.ok.inj hhot
        exact Value.isToml_map_iff.mp (hentries.isToml_of_field? hfield)
    · exact absurd hhot (by simp)
  rw [hconfig]
  exact isToml_default.writeAll htable.isTable.texts htable.values

/-- Options come from a configuration file, or are the default. -/
lemma eq_default_or_exists_load {disk : Disk} {path : Option Path} {config : Config}
    (h : (projectConfig disk path).result = .ok config) :
    config.hot = .default ∨ ∃ file, (Config.load disk file).result = .ok config := by
  cases path with
  | some path => exact .inr ⟨path, h⟩
  | none =>
      obtain ⟨found, -, h⟩ := Run.bind_eq_ok.mp h
      cases found with
      | true => exact .inr ⟨localConfig disk, h⟩
      | false =>
          obtain rfl := Except.ok.inj h
          exact .inl rfl

end HotOptions

end HotReload
