import HotReload.Proofs.Literal
import HotReload.Proofs.TomlValues
import HotReload.Proofs.TreeWalk
/-!
Values of a document as JSON: what they are exactly, and what generated code gets of them.

* `Json.finite`: null for every number that is not finite. It changes nothing in a canonical value
  only (`Json.finite_eq_self_iff`).
* `Value.IsToml.exactJson?_eq`: a value in which there is no date or time is JSON as it is, and
  generated code gets the same but for the numbers that are not finite.
* `Value.IsShowable`: nothing keeps a value from being shown. `Value.IsToml.stop?_eq_none_iff`: a
  writer comes to an end just then.
-/

namespace HotReload

/-! ### Numbers that are not finite -/

namespace Json

mutual

/-- The value with null in the place of every number that is not finite. -/
def finite : Json → Json
  | .float x => if x.isFinite then .float x else .null
  | .arr items => .arr (finiteItems items)
  | .obj entries => .obj (finiteEntries entries)
  | j => j

/-- So with every item. -/
def finiteItems : List Json → List Json
  | [] => []
  | item :: items => item.finite :: finiteItems items

/-- So with the value of every entry. -/
def finiteEntries : List (List UInt16 × Json) → List (List UInt16 × Json)
  | [] => []
  | (key, value) :: entries => (key, value.finite) :: finiteEntries entries

end

lemma finiteItems_eq_map (items : List Json) : finiteItems items = items.map finite := by
  induction items with
  | nil => rfl
  | cons item items ih => rw [finiteItems, ih, List.map_cons]

lemma finiteEntries_eq_map (entries : List (List UInt16 × Json)) :
    finiteEntries entries = entries.map (Prod.map id finite) := by
  induction entries with
  | nil => rfl
  | cons e entries ih => rw [finiteEntries, ih]; rfl

mutual

/-- A value stays as it is just if every number in it is finite. -/
lemma finite_eq_self_iff : (j : Json) → j.Readable → (j.finite = j ↔ j.Canonical)
  | .null, _ | .bool _, _ | .int _, _ | .str _, _ => iff_of_true rfl trivial
  | .float x, _ => by
      rw [finite, Canonical]
      cases x.isFinite <;> simp
  | .arr items, h => by
      rw [finite, Canonical, Json.arr.injEq]
      exact finiteItems_eq_self_iff items h
  | .obj entries, h => by
      rw [finite, Canonical, Json.obj.injEq]
      exact (finiteEntries_eq_self_iff entries h.2).trans (and_iff_right h.1).symm

lemma finiteItems_eq_self_iff :
    (items : List Json) → ReadableItems items → (finiteItems items = items ↔ CanonicalItems items)
  | [], _ => iff_of_true rfl trivial
  | item :: items, h => by
      rw [finiteItems, CanonicalItems, List.cons.injEq]
      exact and_congr (finite_eq_self_iff item h.1) (finiteItems_eq_self_iff items h.2)

lemma finiteEntries_eq_self_iff :
    (entries : List (List UInt16 × Json)) → ReadableEntries entries →
      (finiteEntries entries = entries ↔ CanonicalEntries entries)
  | [], _ => iff_of_true rfl trivial
  | (key, value) :: entries, h => by
      rw [finiteEntries, CanonicalEntries, List.cons.injEq, Prod.mk.injEq]
      exact and_congr ((and_iff_right rfl).trans (finite_eq_self_iff value h.1))
        (finiteEntries_eq_self_iff entries h.2)

end

end Json

/-! ### Values without dates and times -/

namespace Value

variable {v : Value} {items : List Value} {entries : Mapping}

/-- A date, a time of day, or both. -/
def isCalendar : Value → Bool
  | .date _ | .time _ | .moment _ => true
  | _ => false

/-- No date and no time is in a value. -/
def IsTimeless (v : Value) : Prop := ∀ w, v.Holds w → w.isCalendar = false

lemma isTimeless_iff :
    v.IsTimeless ↔ v.isCalendar = false ∧ ∀ child ∈ v.children, child.IsTimeless := by
  constructor
  · exact fun h => ⟨h v .refl, fun child hchild w hw => h w (.head hchild hw)⟩
  · rintro ⟨hself, hchildren⟩ w hw
    rcases Relation.ReflTransGen.cases_head hw with rfl | ⟨child, hchild, hinner⟩
    · exact hself
    · exact hchildren child hchild w hinner

lemma isTimeless_list_iff : (Value.list items).IsTimeless ↔ ∀ v ∈ items, v.IsTimeless :=
  isTimeless_iff.trans (and_iff_right rfl)

lemma isTimeless_map_iff : (Value.map entries).IsTimeless ↔ ∀ e ∈ entries, e.2.IsTimeless :=
  isTimeless_iff.trans ((and_iff_right rfl).trans List.forall_mem_map)

/-- The value as JSON, or null. -/
def exact (v : Value) : Json := v.exactJson?.getD .null

lemma exactJsonItems?_eq (h : ∀ v ∈ items, v.exactJson? = some v.exact) :
    exactJsonItems? items = some (items.map exact) := by
  induction items with
  | nil => rfl
  | cons item items ih =>
      rw [List.forall_mem_cons] at h
      rw [exactJsonItems?, h.1, ih h.2, List.map_cons]

lemma exactJsonEntries?_eq (htexts : ∀ e ∈ entries, ∃ text, e.1 = .str text)
    (h : ∀ e ∈ entries, e.2.exactJson? = some e.2.exact) :
    exactJsonEntries? entries = some (entries.map fun e => (e.1.keyUnits, e.2.exact)) := by
  induction entries with
  | nil => rfl
  | cons e entries ih =>
      obtain ⟨key, value⟩ := e
      rw [List.forall_mem_cons] at h htexts
      obtain ⟨text, rfl⟩ := htexts.1
      have hvalue : value.exactJson? = some value.exact := h.1
      simp only [exactJsonEntries?, hvalue, ih htexts.2 h.2]
      rfl

lemma toJsonItems_eq (h : ∀ v ∈ items, v.toJson? = some v.exact.finite) :
    toJsonItems items = items.map fun v => v.exact.finite := by
  induction items with
  | nil => rfl
  | cons item items ih =>
      rw [List.forall_mem_cons] at h
      rw [toJsonItems, h.1, ih h.2, List.map_cons, Option.getD_some]

lemma toJsonEntries_eq (h : ∀ e ∈ entries, e.2.toJson? = some e.2.exact.finite) :
    toJsonEntries entries = entries.map fun e => (e.1.keyUnits, e.2.exact.finite) := by
  induction entries with
  | nil => rfl
  | cons e entries ih =>
      rw [List.forall_mem_cons] at h
      rw [toJsonEntries, h.1, ih h.2, List.map_cons]

end Value

/-- The texts of the keys of a table differ. -/
lemma IsTable.nodup_keyUnits {table : Mapping} (h : IsTable table) :
    (table.map fun e => e.1.keyUnits).Nodup := by
  refine List.pairwise_map.mpr ((List.pairwise_map.mp h.nodup).imp_of_mem ?_)
  intro e f he hf hne hunits
  obtain ⟨text, htext⟩ := h.texts e he
  obtain ⟨other, hother⟩ := h.texts f hf
  rw [htext, hother] at hunits hne
  have hsame : text = other := units_injective hunits
  exact hne (congrArg Value.str hsame)

/-- A table that generated code gets has all its entries. -/
lemma IsTable.toJson?_map {table : Mapping} (h : IsTable table)
    (hvalues : ∀ e ∈ table, e.2.toJson? = some e.2.exact.finite) :
    (Value.map table).toJson? =
      some (.obj (table.map fun e => (e.1.keyUnits, e.2.exact.finite))) := by
  have hnodup : ((table.map fun e => (e.1.keyUnits, e.2.exact.finite)).map Prod.fst).Nodup := by
    rw [List.map_map]
    exact h.nodup_keyUnits
  rw [Value.toJson?, Value.toJsonEntries_eq hvalues, putAllBy_of_nodup [] _ hnodup, List.nil_append]

/-- A value without dates and times is shown as it is, and generated code gets the same but for
the numbers that are not finite. -/
theorem Value.IsToml.exactJson?_eq {v : Value} (h : v.IsToml) (htimeless : v.IsTimeless) :
    v.exactJson? = some v.exact ∧ v.exact.Readable ∧ v.toJson? = some v.exact.finite := by
  induction h with
  | bool b => exact ⟨rfl, trivial, rfl⟩
  | int n => exact ⟨rfl, trivial, rfl⟩
  | str text => exact ⟨rfl, trivial, rfl⟩
  | float h => exact ⟨rfl, h, rfl⟩
  -- no date and no time can be in the value
  | date d => exact absurd (htimeless _ .refl) (by simp [isCalendar])
  | time t => exact absurd (htimeless _ .refl) (by simp [isCalendar])
  | moment m => exact absurd (htimeless _ .refl) (by simp [isCalendar])
  | @list items _ ih =>
      -- nor in an item, so that each item is shown as it is
      have hitems := fun v hv => ih v hv (isTimeless_list_iff.mp htimeless v hv)
      have hshown : (Value.list items).exactJson? = some (.arr (items.map exact)) := by
        rw [exactJson?, exactJsonItems?_eq fun v hv => (hitems v hv).1, Option.map_some]
      have hexact : (Value.list items).exact = .arr (items.map exact) := by
        rw [exact, hshown, Option.getD_some]
      rw [hexact]
      refine ⟨hshown, Json.readableItems_iff.mpr ?_, ?_⟩
      · exact List.forall_mem_map.mpr fun v hv => (hitems v hv).2.1
      · rw [toJson?, toJsonItems_eq fun v hv => (hitems v hv).2.2, Json.finite,
          Json.finiteItems_eq_map, List.map_map]
        rfl
  | @map entries htable _ ih =>
      have hvalues := fun e he => ih e he (isTimeless_map_iff.mp htimeless e he)
      have hshown : (Value.map entries).exactJson? =
          some (.obj (entries.map fun e => (e.1.keyUnits, e.2.exact))) := by
        rw [exactJson?, exactJsonEntries?_eq htable.texts fun e he => (hvalues e he).1,
          Option.map_some]
      have hexact : (Value.map entries).exact =
          .obj (entries.map fun e => (e.1.keyUnits, e.2.exact)) := by
        rw [exact, hshown, Option.getD_some]
      rw [hexact]
      refine ⟨hshown, ⟨?_, Json.readableEntries_iff.mpr ?_⟩, ?_⟩
      · rw [List.map_map]
        exact htable.nodup_keyUnits
      · exact List.forall_mem_map.mpr fun e he => (hvalues e he).2.1
      · rw [htable.toJson?_map fun e he => (hvalues e he).2.2, Json.finite,
          Json.finiteEntries_eq_map, List.map_map]
        rfl

/-! ### Values that can be shown -/

namespace Value

variable {v : Value} {items : List Value} {entries : Mapping} {hasForm : Value → Bool}
  {forList forMap room : ℕ}

/-- Nothing in a value keeps it from being shown with room for so many levels. -/
structure IsShowable (room : ℕ) (v : Value) : Prop where
  levels : v.openSteps 1 1 ≤ room
  digits : v.hasLongInteger = false
  timeless : v.IsTimeless

lemma openStepsItems_le_iff :
    openStepsItems forList forMap items ≤ room ↔
      ∀ v ∈ items, v.openSteps forList forMap ≤ room := by
  induction items with
  | nil => simp [openStepsItems]
  | cons item items ih => rw [openStepsItems, Nat.max_le, ih, List.forall_mem_cons]

lemma openStepsEntries_le_iff :
    openStepsEntries forList forMap entries ≤ room ↔
      ∀ e ∈ entries, e.2.openSteps forList forMap ≤ room := by
  induction entries with
  | nil => simp [openStepsEntries]
  | cons e entries ih => rw [openStepsEntries, Nat.max_le, ih, List.forall_mem_cons]

lemma hasLongIntegerItems_eq_false_iff :
    hasLongIntegerItems items = false ↔ ∀ v ∈ items, v.hasLongInteger = false := by
  induction items with
  | nil => simp [hasLongIntegerItems]
  | cons item items ih =>
      rw [hasLongIntegerItems, Bool.or_eq_false_iff, ih, List.forall_mem_cons]

/-- The keys of a table are no integers. -/
lemma hasLongIntegerEntries_eq_false_iff (htexts : ∀ e ∈ entries, ∃ text, e.1 = .str text) :
    hasLongIntegerEntries entries = false ↔ ∀ e ∈ entries, e.2.hasLongInteger = false := by
  induction entries with
  | nil => simp [hasLongIntegerEntries]
  | cons e entries ih =>
      obtain ⟨key, value⟩ := e
      rw [List.forall_mem_cons] at htexts
      obtain ⟨text, rfl⟩ := htexts.1
      have hkey : (Value.str text).hasLongInteger = false := rfl
      rw [hasLongIntegerEntries, Bool.or_eq_false_iff, ih htexts.2, List.forall_mem_cons, hkey,
        Bool.false_or]

lemma isShowable_list_iff :
    (Value.list items).IsShowable room ↔ room ≠ 0 ∧ ∀ v ∈ items, v.IsShowable (room - 1) := by
  have hlevels : (Value.list items).openSteps 1 1 ≤ room ↔
      room ≠ 0 ∧ ∀ v ∈ items, v.openSteps 1 1 ≤ room - 1 := by
    rw [openSteps, ← openStepsItems_le_iff]
    omega
  constructor
  · intro h
    have hroom := hlevels.mp h.levels
    exact ⟨hroom.1, fun v hv => ⟨hroom.2 v hv, hasLongIntegerItems_eq_false_iff.mp h.digits v hv,
      isTimeless_list_iff.mp h.timeless v hv⟩⟩
  · rintro ⟨hroom, h⟩
    exact ⟨hlevels.mpr ⟨hroom, fun v hv => (h v hv).levels⟩,
      hasLongIntegerItems_eq_false_iff.mpr fun v hv => (h v hv).digits,
      isTimeless_list_iff.mpr fun v hv => (h v hv).timeless⟩

lemma isShowable_map_iff (htexts : ∀ e ∈ entries, ∃ text, e.1 = .str text) :
    (Value.map entries).IsShowable room ↔
      room ≠ 0 ∧ ∀ e ∈ entries, e.2.IsShowable (room - 1) := by
  have hlevels : (Value.map entries).openSteps 1 1 ≤ room ↔
      room ≠ 0 ∧ ∀ e ∈ entries, e.2.openSteps 1 1 ≤ room - 1 := by
    rw [openSteps, ← openStepsEntries_le_iff]
    omega
  have hdigits := hasLongIntegerEntries_eq_false_iff htexts
  constructor
  · intro h
    have hroom := hlevels.mp h.levels
    exact ⟨hroom.1, fun e he => ⟨hroom.2 e he, hdigits.mp h.digits e he,
      isTimeless_map_iff.mp h.timeless e he⟩⟩
  · rintro ⟨hroom, h⟩
    exact ⟨hlevels.mpr ⟨hroom, fun e he => (h e he).levels⟩,
      hdigits.mpr fun e he => (h e he).digits,
      isTimeless_map_iff.mpr fun e he => (h e he).timeless⟩

lemma stopItems?_eq_none_iff :
    stopItems? hasForm room items = none ↔ ∀ v ∈ items, v.stop? hasForm room = none := by
  induction items with
  | nil => simp [stopItems?]
  | cons item items ih =>
      rw [stopItems?, List.forall_mem_cons, ← ih]
      cases item.stop? hasForm room <;> simp

lemma stopEntries?_eq_none_iff :
    stopEntries? hasForm room entries = none ↔ ∀ e ∈ entries, e.2.stop? hasForm room = none := by
  induction entries with
  | nil => simp [stopEntries?]
  | cons e entries ih =>
      rw [stopEntries?, List.forall_mem_cons, ← ih]
      cases e.2.stop? hasForm room <;> simp

lemma isShowable_of_children {v : Value} (hchildren : v.children = [])
    (hlevels : v.openSteps 1 1 = 0) (hdigits : v.hasLongInteger = false)
    (hcalendar : v.isCalendar = false) : v.IsShowable room where
  levels := hlevels ▸ Nat.zero_le room
  digits := hdigits
  timeless := isTimeless_iff.mpr ⟨hcalendar, hchildren ▸ List.forall_mem_nil _⟩

lemma not_isShowable_of_isCalendar (h : v.isCalendar = true) : ¬ v.IsShowable room := by
  intro hshowable
  have hcalendar := hshowable.timeless v .refl
  rw [h] at hcalendar
  exact absurd hcalendar (by simp)

/-- A value of a document is written just if it can be shown. -/
theorem IsToml.stop?_eq_none_iff (h : v.IsToml) :
    v.stop? (·.exactJson?.isSome) room = none ↔ v.IsShowable room := by
  induction h generalizing room with
  | bool b => exact iff_of_true rfl (isShowable_of_children rfl rfl rfl rfl)
  | float h => exact iff_of_true rfl (isShowable_of_children rfl rfl rfl rfl)
  | str text => exact iff_of_true rfl (isShowable_of_children rfl rfl rfl rfl)
  | date d => exact iff_of_false (by simp [stop?, exactJson?]) (not_isShowable_of_isCalendar rfl)
  | time t => exact iff_of_false (by simp [stop?, exactJson?]) (not_isShowable_of_isCalendar rfl)
  | moment m => exact iff_of_false (by simp [stop?, exactJson?]) (not_isShowable_of_isCalendar rfl)
  | int n =>
      have hshort : (Value.int n).stop? (·.exactJson?.isSome) room = none ↔
          (Value.int n).hasLongInteger = false := by
        rw [stop?, hasLongInteger, decide_eq_false_iff_not]
        split
        · next hlong => simp [hlong]
        · next hlong => simp [hlong]
      exact hshort.trans ⟨fun h => isShowable_of_children rfl rfl h rfl, fun h => h.digits⟩
  | list _ ih =>
      -- the items have one step less, which is why the room is not fixed
      rw [stop?, isShowable_list_iff]
      split
      · next hroom => simp [hroom]
      · next hroom =>
          rw [stopItems?_eq_none_iff, and_iff_right hroom]
          exact forall₂_congr fun v hv => ih v hv
  | map htable _ ih =>
      rw [stop?, isShowable_map_iff htable.texts]
      split
      · next hroom => simp [hroom]
      · next hroom =>
          rw [stopEntries?_eq_none_iff, and_iff_right hroom]
          exact forall₂_congr fun e he => ih e he

end Value

end HotReload
