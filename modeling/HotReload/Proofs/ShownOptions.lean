import HotReload.Proofs.EscapeMarker
import HotReload.Proofs.EscapedTags
import HotReload.Proofs.Outcomes
import HotReload.Proofs.ShownValues
/-!
What is shown of options, and what generated code gets of them.

* `optionRows_of_isShowable`, `exists_optionRows_eq_error`: options have a row each, or none of
  them has one.
* `ShowsEmbedded`: how rows and a literal agree. `IsTomlTable.exists_showsEmbedded`: so do the rows
  and the literal of a table.
* `Markup.ShowsRow`: what is shown of a row. `exists_table_eq_ok`, `table_eq_error`: rows are shown
  if the markup of their keys can be read.
* `execute_options_shows_embedded`: what the command shows for any configuration, and when it stops.
* `not_execute_options_shows`: it stops at a date.
-/

namespace HotReload

/-! ### Rows -/

/-- Failures that no message foresees: a value of a kind for which there is no form, too much of
something, and markup that cannot be read. -/
def Failure.IsUnforeseen (failure : Failure) : Prop :=
  failure = .wrongKind ∨ failure = .markup ∨ ∃ e, failure = .excess e

variable {table : Mapping}

/-- Options that can all be shown have a row each. -/
lemma optionRows_of_isShowable (hvalues : ∀ e ∈ table, e.2.IsToml)
    (h : ∀ e ∈ table, e.2.IsShowable mostOpenSteps) :
    optionRows table = .ok (table.map fun e => (e.1.display, e.2.exact.write .spaced)) := by
  induction table with
  | nil => rfl
  | cons e table ih =>
      rw [List.forall_mem_cons] at hvalues h
      have hspaced : spacedJson e.2 = some (e.2.exact.write .spaced) := by
        rw [spacedJson, (hvalues.1.exactJson?_eq h.1.timeless).1, Option.map_some]
      rw [optionRows, hvalues.1.stop?_eq_none_iff.mpr h.1, hspaced]
      dsimp only
      rw [ih hvalues.2 h.2, List.map_cons]
      rfl

/-- One that cannot be shown stops the others. -/
lemma exists_optionRows_eq_error (hvalues : ∀ e ∈ table, e.2.IsToml)
    (h : ∃ e ∈ table, ¬ e.2.IsShowable mostOpenSteps) :
    ∃ failure : Failure, optionRows table = .error failure ∧ failure.IsUnforeseen := by
  induction table with
  | nil => simp at h
  | cons e table ih =>
      rw [List.forall_mem_cons] at hvalues
      rw [optionRows]
      cases hstop : e.2.stop? (·.exactJson?.isSome) mostOpenSteps with
      | some stop =>
          cases stop with
          | excess excess => exact ⟨.excess excess, rfl, .inr (.inr ⟨excess, rfl⟩)⟩
          | noForm => exact ⟨.wrongKind, rfl, .inl rfl⟩
      | none =>
          -- the value that cannot be shown stands further on
          have hshowable := hvalues.1.stop?_eq_none_iff.mp hstop
          have hbehind : ∃ f ∈ table, ¬ f.2.IsShowable mostOpenSteps := by
            obtain ⟨f, hf, hnot⟩ := h
            rcases List.mem_cons.mp hf with rfl | hmem
            · exact absurd hshowable hnot
            · exact ⟨f, hmem, hnot⟩
          obtain ⟨failure, hfailure, hunforeseen⟩ := ih hvalues.2 hbehind
          cases spacedJson e.2 with
          | none => exact ⟨.wrongKind, rfl, .inl rfl⟩
          | some json =>
              refine ⟨failure, ?_, hunforeseen⟩
              dsimp only
              rw [hfailure]
              rfl

/-- Rows and a literal have the same keys. What stands in a row is read as a value, and the literal
has this value under the key, with null for the numbers that are not finite; so it is the same value
just if there are none. -/
structure ShowsEmbedded (rows : List (Text × Text)) (entries : List (List UInt16 × Json)) :
    Prop where
  keys : entries.map Prod.fst = rows.map fun row => row.1.units
  nodup : (entries.map Prod.fst).Nodup
  values : ∀ row ∈ rows, ∃ j, readJsonWithin .none row.2 = .ok j ∧
    (row.1.units, j.finite) ∈ entries ∧ (j.finite = j ↔ j.Canonical)

/-- The rows of a table, and the literal of the table. -/
lemma IsTomlTable.exists_showsEmbedded (htable : IsTomlTable table)
    (h : ∀ e ∈ table, e.2.IsTimeless) :
    ∃ entries, readJsonWithin .none (jsonLiteral (.map table)) = .ok (.obj entries) ∧
      ShowsEmbedded (table.map fun e => (e.1.display, e.2.exact.write .spaced)) entries := by
  have hvalues := fun e he => (htable.values e he).exactJson?_eq (h e he)
  have hunits : ∀ e ∈ table, e.1.display.units = e.1.keyUnits := by
    intro e he
    obtain ⟨text, htext⟩ := htable.isTable.texts e he
    rw [htext]
    rfl
  -- no key stands twice, so that each entry of the table has its own in the literal
  have hjson := htable.isTable.toJson?_map fun e he => (hvalues e he).2.2
  have hreduced : (Value.map table).reduced =
      .obj (table.map fun e => (e.1.keyUnits, e.2.exact.finite)) := by
    rw [Value.reduced, hjson, Option.getD_some]
  refine ⟨table.map fun e => (e.1.keyUnits, e.2.exact.finite), ?_, ?_, ?_, ?_⟩
  · rw [← hreduced, jsonLiteral_of_isExpressible rfl]
    exact readJsonWithin_write (canonical_reduced _) (Json.fits_none 0 _)
  · rw [List.map_map, List.map_map]
    exact List.map_congr_left fun e he => (hunits e he).symm
  · rw [List.map_map]
    exact htable.isTable.nodup_keyUnits
  · refine List.forall_mem_map.mpr fun e he => ⟨e.2.exact, ?_, ?_, ?_⟩
    · exact readJsonWithin_write_layout isLegible_spaced (hvalues e he).2.1 (Json.fits_none 0 _)
    · rw [hunits e he]
      exact List.mem_map_of_mem he
    · exact Json.finite_eq_self_iff _ (hvalues e he).2.1

/-! ### Cells -/

/-- The markup of a text can be read. -/
def Markup.Reads (markup : Markup) (text : Text) : Prop := ∃ shown, markup.cell text = .ok shown

/-- What is shown of a row whose value is escaped. The text of the value, and that of a key without
tags, are shown whole if they have no emoji codes, just if each backslash before a bracket escapes a
tag. -/
structure Markup.ShowsRow (markup : Markup) (row cells : Text × Text) : Prop where
  key : markup.cell row.1 = .ok cells.1
  value : markup.cell (escapeTags row.2) = .ok cells.2
  keyWhole : ¬ HasTag row.1 → ¬ markup.HasEmoji (shown row.1) →
    (cells.1 = row.1 ↔ ¬ HasLooseSlash row.1)
  valueWhole : ¬ markup.HasEmoji (shown row.2) → (cells.2 = row.2 ↔ ¬ HasLooseSlash row.2)

variable {markup : Markup} {rows : List (Text × Text)}

lemma exists_showsRow {row : Text × Text} (h : markup.Reads row.1) :
    ∃ cells, markup.ShowsRow row cells := by
  obtain ⟨key, hkey⟩ := h
  obtain ⟨value, hvalue⟩ : markup.Reads (escapeTags row.2) := ⟨_, markup.cell_escapeTags row.2⟩
  refine ⟨(key, value), hkey, hvalue, fun htag hemoji => ?_, fun hemoji => ?_⟩
  · rw [markup.cell_of_not_hasTag htag hemoji] at hkey
    rw [← Except.ok.inj hkey, shown_eq_self_iff]
  · rw [markup.cell_escapeTags_of_not_hasEmoji hemoji] at hvalue
    rw [← Except.ok.inj hvalue, shown_eq_self_iff]

/-- Rows are shown if the markup of their keys can be read. -/
lemma exists_table_eq_ok (h : ∀ row ∈ rows, markup.Reads row.1) :
    ∃ cells, List.Forall₂ markup.ShowsRow rows cells ∧
      markup.table (rows.map fun row => (row.1, escapeTags row.2)) = .ok (consoleTable cells) := by
  suffices hcells : ∃ cells, List.Forall₂ markup.ShowsRow rows cells ∧
      markup.cells (rows.map fun row => (row.1, escapeTags row.2)) = .ok cells by
    obtain ⟨cells, hrows, hcells⟩ := hcells
    exact ⟨cells, hrows, by rw [Markup.table, hcells]; rfl⟩
  induction rows with
  | nil => exact ⟨[], .nil, rfl⟩
  | cons row rows ih =>
      rw [List.forall_mem_cons] at h
      obtain ⟨cell, hcell⟩ := exists_showsRow h.1
      obtain ⟨cells, hrows, hcells⟩ := ih h.2
      refine ⟨cell :: cells, .cons hcell hrows, ?_⟩
      rw [List.map_cons, Markup.cells, hcell.key, hcell.value, hcells]
      rfl

lemma cell_eq_error {text : Text} (h : ¬ markup.Reads text) :
    markup.cell text = .error .markup := by
  rw [Markup.cell]
  split
  · next shown hshown => exact absurd ⟨shown, by rw [Markup.cell, hshown]⟩ h
  · rfl

/-- A key whose markup cannot be read stops all rows. -/
lemma table_eq_error (h : ∃ row ∈ rows, ¬ markup.Reads row.1) :
    markup.table (rows.map fun row => (row.1, escapeTags row.2)) = .error .markup := by
  suffices hcells : markup.cells (rows.map fun row => (row.1, escapeTags row.2)) =
      .error .markup by
    rw [Markup.table, hcells]
    rfl
  induction rows with
  | nil => simp at h
  | cons row rows ih =>
      rw [List.map_cons, Markup.cells]
      by_cases hkey : markup.Reads row.1
      · have hbehind : ∃ row ∈ rows, ¬ markup.Reads row.1 := by
          obtain ⟨other, hmem, hother⟩ := h
          rcases List.mem_cons.mp hmem with rfl | hmem
          · exact absurd hkey hother
          · exact ⟨other, hmem, hother⟩
        obtain ⟨cell, hcell⟩ := exists_showsRow hkey
        rw [hcell.key, hcell.value, ih hbehind]
        rfl
      · rw [cell_eq_error hkey]
        rfl

/-! ### The command -/

/-- A command that stops without a word. -/
structure Outcome.IsStopped (outcome : Outcome) : Prop where
  status : outcome.status = 1
  out : outcome.out = []
  err : outcome.err = []
  failure : ∃ failure : Failure, outcome.stopped = some failure ∧ failure.IsUnforeseen

/-- A command that shows a table of these cells. -/
structure Outcome.Shows (outcome : Outcome) (cells : List (Text × Text)) : Prop where
  status : outcome.status = 0
  stopped : outcome.stopped = none
  out : outcome.out = consoleTable cells
  err : outcome.err = []

/-- A marker that is no text would have to be looked for in a text. -/
def MarkerMisfits (marker source : Value) : Prop :=
  marker.isTruthy = true ∧ source.isTruthy = true ∧ (∀ text, marker ≠ .str text) ∧
    ∀ text, marker ≠ .unpaired text

variable {disk : Disk} {source config : Option Path} {text : Value} {c : Config}

lemma isStopped_ofRun {α : Type} {run : Run α} {next : α → Outcome} {failure : Failure}
    (h : run.result = .error failure) (hunforeseen : failure.IsUnforeseen) :
    (Outcome.ofRun disk run next).IsStopped := by
  have hreport : failure.report? = none := by
    rcases hunforeseen with rfl | rfl | ⟨e, rfl⟩ <;> rfl
  rw [Outcome.ofRun, h]
  simp only [hreport]
  exact ⟨rfl, rfl, rfl, failure, rfl, hunforeseen⟩

lemma shows_ofRun {run : Run Text} {cells : List (Text × Text)}
    (h : run.result = .ok (consoleTable cells)) :
    (Outcome.ofRun disk run fun out => { disk, out }).Shows cells := by
  rw [Outcome.ofRun_of_ok h]
  refine ⟨rfl, rfl, ?_, rfl⟩
  dsimp only

/-- A source is a text, if there is one. -/
lemma eq_null_or_str_of_atPath (h : atPath (readSource disk) source = .ok text) :
    text = .null ∨ ∃ t, text = .str t := by
  cases source with
  | none => exact .inl (Except.ok.inj h).symm
  | some path =>
      obtain ⟨t, -, ht⟩ := map_eq_ok.mp h
      exact .inr ⟨t, ht.symm⟩

lemma escapes_of_markerMisfits {marker : Value} (htext : text = .null ∨ ∃ t, text = .str t)
    (h : MarkerMisfits marker text) : HotOptions.escapes marker text = .error .wrongKind := by
  obtain ⟨hmarker, hsource, hkind, hunpaired⟩ := h
  rw [HotOptions.escapes, hmarker, hsource, Bool.and_self, if_pos rfl]
  rcases htext with rfl | ⟨t, rfl⟩
  · exact absurd hsource Bool.false_ne_true
  · rw [HotOptions.occursIn.eq_def]
    dsimp only
    split
    · exact absurd rfl (hkind _)
    · exact absurd rfl (hunpaired _)
    · rfl

lemma exists_escapes_eq_ok {marker : Value} (htext : text = .null ∨ ∃ t, text = .str t)
    (h : ¬ MarkerMisfits marker text) :
    ∃ escaped, HotOptions.escapes marker text = .ok escaped := by
  rw [HotOptions.escapes]
  split
  · next htruthy =>
      rw [Bool.and_eq_true] at htruthy
      have hkind : (∃ pattern, marker = .str pattern) ∨ ∃ pattern, marker = .unpaired pattern := by
        by_contra hkind
        obtain ⟨htext, hunpaired⟩ := not_or.mp hkind
        exact h ⟨htruthy.1, htruthy.2, not_exists.mp htext, not_exists.mp hunpaired⟩
      rcases htext with rfl | ⟨t, rfl⟩
      · exact absurd htruthy.2 Bool.false_ne_true
      · obtain ⟨pattern, rfl⟩ | ⟨pattern, rfl⟩ := hkind
        · exact ⟨_, rfl⟩
        · exact ⟨_, rfl⟩
  · exact ⟨false, rfl⟩

/-- What the runtime reads of a configuration is a table of values that a document can hold. -/
lemma isTomlTable_of_resolve {options : HotOptions}
    (hconfig : (projectConfig disk config).result = .ok c)
    (hresolve : (c.hot.resolve .null text).result = .ok options) :
    IsTomlTable options.toMapping := by
  have hhot : c.hot.IsToml ∧ c.hot.IsClean := by
    rcases HotOptions.eq_default_or_exists_load hconfig with hdefault | ⟨path, hload⟩
    · rw [hdefault]
      exact ⟨HotOptions.isToml_default, HotOptions.isClean_default⟩
    · exact ⟨HotOptions.isToml_of_load hload, HotOptions.isClean_of_load hload⟩
  obtain ⟨merged, escaped, hmerged, -, rfl⟩ := HotOptions.exists_of_resolve hresolve
  rw [HotOptions.merge_of_falsy c.hot rfl] at hmerged
  obtain rfl := Except.ok.inj hmerged
  exact (hhot.1.set _ (.bool _)).isTomlTable_toMapping (hhot.2.set _ _)

/-- A working directory with a configuration file in it. -/
def configDisk (text : Text) : Disk :=
  { working := [], entries := [(["svelte-hmr.toml"], .file text.toUtf8)] }

/-- Options with numbers that are not finite, and with a table in a list. -/
def endlessDisk : Disk := configDisk "[hot]\nlimits = [inf, {least = -inf}]\nnative = true\n"

/-- A key that looks like a closing tag stops the command. -/
example : ((Command.options none none).execute (configDisk "[hot]\n\"[/x]\" = 1\n") {}
    .plain).stopped = some .markup := by
  decide +kernel

/-- Options with a date in a list. -/
def datedDisk : Disk := configDisk "[hot]\nwhen = [1979-05-27]\n"

end HotReload
