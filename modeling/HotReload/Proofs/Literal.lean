import HotReload.Proofs.Json.RoundTrip
import HotReload.Proofs.Units
/-!
Literals: a literal is plain text that is read back as the normal form of its value.

* `Value.normal` is the normal form: what is left of a value when it has been a literal.
* `toJson?_toValue`: a JSON value is what its value is reduced to.
* `toValue_reduced`: what a value is reduced to has the value of the normal form.
* `jsonLiteral_reads_back` puts this together with `readJsonWithin_write`.
-/

namespace HotReload

namespace Value

/-! ### The normal form -/

/-- Whether a value has a literal: bytes, functions, dates and times have none. -/
def isExpressible : Value → Bool
  | .bytes _ | .function _ | .date _ | .time _ | .moment _ => false
  | _ => true

/-- Every key once, as a text, where it first stands, with the value that it last has. -/
def normalMapping (entries : List (Text × Value)) : Mapping :=
  (mergedEntries entries).map (Prod.map .str id)

mutual

/-- The normal form of a value: a tuple is a list, a number that is not finite is null, and so
is what cannot be expressed. -/
def normal : Value → Value
  | .float x => if x.isFinite then .float x else .null
  | .nan _ => .null
  | .list items => .list (normalItems items)
  | .tuple items => .list (normalItems items)
  | .map entries => .map (normalMapping (normalEntries entries))
  | .bytes _ | .function _ | .date _ | .time _ | .moment _ => .null
  | v => v

/-- The normal forms of items. -/
def normalItems : List Value → List Value
  | [] => []
  | item :: items => item.normal :: normalItems items

/-- The normal forms of the values that can be expressed, with the texts of their keys. -/
def normalEntries : List (Value × Value) → List (Text × Value)
  | [] => []
  | (key, value) :: entries =>
      if value.isExpressible then (key.display, value.normal) :: normalEntries entries
      else normalEntries entries

end

/-! ### What a literal needs -/

mutual

/-- Whether every surrogate in the texts and keys of a value has its partner. -/
def isPaired : Value → Bool
  | .unpaired _ => false
  | .list items => isPairedItems items
  | .tuple items => isPairedItems items
  | .map entries => isPairedEntries entries
  | _ => true

/-- Whether it is so in every item. -/
def isPairedItems : List Value → Bool
  | [] => true
  | item :: items => item.isPaired && isPairedItems items

/-- Whether it is so in every entry. -/
def isPairedEntries : List (Value × Value) → Bool
  | [] => true
  | (.unpaired _, _) :: _ => false
  | (_, value) :: entries => value.isPaired && isPairedEntries entries

end

end Value

/-! ### From JSON to a value and back -/

lemma toJson?_valueOfRaw (raw : RawText) :
    (valueOfRaw raw).toJson? = some (.str raw.units) := by
  unfold valueOfRaw
  split
  · next text htext => rw [Value.toJson?, eq_raw_of_text? htext, units_raw]
  · rw [Value.toJson?]

lemma keyUnits_valueOfRaw (raw : RawText) : (valueOfRaw raw).keyUnits = raw.units := by
  unfold valueOfRaw
  split
  · next text htext =>
      rw [eq_raw_of_text? htext, units_raw]
      rfl
  · rfl

lemma toJson?_valueOfUnits (units : List UInt16) :
    (valueOfUnits units).toJson? = some (.str units) := by
  rw [valueOfUnits, toJson?_valueOfRaw, units_rawOfUnits]

lemma keyUnits_valueOfUnits (units : List UInt16) : (valueOfUnits units).keyUnits = units := by
  rw [valueOfUnits, keyUnits_valueOfRaw, units_rawOfUnits]

mutual

/-- A JSON value is what its value is reduced to. -/
theorem toJson?_toValue : (j : Json) → j.Canonical → j.toValue.toJson? = some j
  | .null, _ => by simp [Json.toValue, Value.toJson?]
  | .bool b, _ => by simp [Json.toValue, Value.toJson?]
  | .int n, _ => by simp [Json.toValue, Value.toJson?]
  | .float x, hcanonical => by
      have hfinite : x.isFinite = true := hcanonical
      simp [Json.toValue, Value.toJson?, hfinite]
  | .str units, _ => by rw [Json.toValue, toJson?_valueOfUnits]
  | .arr items, hcanonical => by
      rw [Json.toValue, Value.toJson?, toJsonItems_toValues items hcanonical]
  | .obj entries, hcanonical => by
      rw [Json.toValue, Value.toJson?, toJsonEntries_toMapping entries hcanonical.2,
        putAllBy_of_nodup [] entries hcanonical.1, List.nil_append]

lemma toJsonItems_toValues :
    (items : List Json) → Json.CanonicalItems items →
      Value.toJsonItems (Json.toValues items) = items
  | [], _ => rfl
  | item :: items, hcanonical => by
      rw [Json.toValues, Value.toJsonItems, toJson?_toValue item hcanonical.1,
        toJsonItems_toValues items hcanonical.2, Option.getD_some]

lemma toJsonEntries_toMapping :
    (entries : List (List UInt16 × Json)) → Json.CanonicalEntries entries →
      Value.toJsonEntries (Json.toMapping entries) = entries
  | [], _ => rfl
  | (key, value) :: entries, hcanonical => by
      rw [Json.toMapping, Value.toJsonEntries, toJson?_toValue value hcanonical.1,
        keyUnits_valueOfUnits, toJsonEntries_toMapping entries hcanonical.2]

end

/-! ### From a value to JSON -/

/-- What a value is reduced to, or null. -/
def Value.reduced (v : Value) : Json := v.toJson?.getD .null

lemma valueOfUnits_units (text : Text) : valueOfUnits text.units = .str text := by
  rw [valueOfUnits, rawOfUnits_units, valueOfRaw_raw]

lemma toMapping_eq_map (entries : List (List UInt16 × Json)) :
    Json.toMapping entries = entries.map (Prod.map valueOfUnits Json.toValue) := by
  induction entries with
  | nil => rfl
  | cons e entries ih => rw [Json.toMapping, ih]; rfl

lemma toValue_obj_eq_normalMapping (entries : List (Text × Json)) :
    (Json.obj (putAllBy (· == ·) [] (entries.map (Prod.map Text.units id)))).toValue =
      .map (Value.normalMapping (entries.map (Prod.map id Json.toValue))) := by
  rw [Json.toValue, toMapping_eq_map, putAllBy_map units_injective, Value.normalMapping,
    ← putAllBy_nil_eq_mergedEntries, putAllBy_map Function.injective_id, List.map_map,
    List.map_map]
  congr 2
  funext e
  exact Prod.ext (valueOfUnits_units e.1) rfl

lemma isPairedEntries_cons {key value : Value} {entries : List (Value × Value)}
    (h : Value.isPairedEntries ((key, value) :: entries) = true) :
    key.keyUnits = key.display.units ∧ value.isPaired = true ∧
      Value.isPairedEntries entries = true := by
  rw [Value.isPairedEntries.eq_def] at h
  split at h
  · next heq => exact absurd heq (by simp)
  · exact absurd h (by simp)
  · next hkey heq =>
      obtain ⟨hfirst, rfl⟩ := List.cons.inj heq
      obtain ⟨rfl, rfl⟩ := Prod.mk.inj hfirst
      rw [Bool.and_eq_true] at h
      refine ⟨?_, h⟩
      rw [Value.keyUnits]
      exact fun units hunits => hkey units hunits

/-- A value is left out if it cannot be expressed. -/
lemma toJson?_eq_ite (v : Value) :
    v.toJson? = if v.isExpressible then some v.reduced else none := by
  cases v <;> rfl

mutual

/-- What a value is reduced to has the value of the normal form. -/
theorem toValue_reduced : (v : Value) → v.isPaired = true → v.reduced.toValue = v.normal
  | .null, _ => rfl
  | .bool b, _ => rfl
  | .int n, _ => rfl
  | .float x, _ => by
      rw [Value.reduced, Value.toJson?, Value.normal, Option.getD_some]
      split <;> rfl
  | .nan _, _ => rfl
  | .str text, _ => valueOfUnits_units text
  | .bytes _, _ => rfl
  | .function _, _ => rfl
  | .date _, _ => rfl
  | .time _, _ => rfl
  | .moment _, _ => rfl
  | .list items, hpaired => by
      rw [Value.reduced, Value.toJson?, Value.normal, Option.getD_some, Json.toValue,
        toValues_toJsonItems items hpaired]
  | .tuple items, hpaired => by
      rw [Value.reduced, Value.toJson?, Value.normal, Option.getD_some, Json.toValue,
        toValues_toJsonItems items hpaired]
  | .map entries, hpaired => by
      obtain ⟨texts, hjson, hnormal⟩ := exists_texts_of_entries entries hpaired
      rw [Value.reduced, Value.toJson?, Value.normal, Option.getD_some, hjson, hnormal]
      exact toValue_obj_eq_normalMapping texts

lemma toValues_toJsonItems :
    (items : List Value) → Value.isPairedItems items = true →
      Json.toValues (Value.toJsonItems items) = Value.normalItems items
  | [], _ => rfl
  | item :: items, hpaired => by
      rw [Value.isPairedItems, Bool.and_eq_true] at hpaired
      rw [Value.toJsonItems, Json.toValues, Value.normalItems, ← toValue_reduced item hpaired.1,
        toValues_toJsonItems items hpaired.2]
      rfl

/-- The entries that can be expressed, with texts as keys, are those that are written and those
of the normal form. -/
lemma exists_texts_of_entries :
    (entries : List (Value × Value)) → Value.isPairedEntries entries = true →
      ∃ texts : List (Text × Json),
        Value.toJsonEntries entries = texts.map (Prod.map Text.units id) ∧
          Value.normalEntries entries = texts.map (Prod.map id Json.toValue)
  | [], _ => ⟨[], rfl, rfl⟩
  | (key, value) :: entries, hpaired => by
      obtain ⟨hkey, hvalue, hentries⟩ := isPairedEntries_cons hpaired
      obtain ⟨texts, hjson, hnormal⟩ := exists_texts_of_entries entries hentries
      have hreduced := toValue_reduced value hvalue
      rw [Value.toJsonEntries, Value.normalEntries, toJson?_eq_ite value, hjson, hnormal]
      cases value.isExpressible with
      | false => exact ⟨texts, rfl, rfl⟩
      | true =>
          refine ⟨(key.display, value.reduced) :: texts, ?_, ?_⟩
          · rw [List.map_cons, hkey]
            rfl
          · rw [List.map_cons, ← hreduced]
            rfl

end

/-! ### What is reduced can be read back -/

mutual

/-- What a value is reduced to is canonical. -/
lemma canonical_reduced : (v : Value) → v.reduced.Canonical
  | .null | .bool _ | .int _ | .nan _ | .str _ | .unpaired _ => trivial
  | .bytes _ | .function _ | .date _ | .time _ | .moment _ => trivial
  | .float x => by
      rw [Value.reduced, Value.toJson?, Option.getD_some]
      split
      · next hfinite => exact hfinite
      · trivial
  | .list items => canonicalItems_toJsonItems items
  | .tuple items => canonicalItems_toJsonItems items
  | .map entries => by
      refine ⟨nodup_keys_putAllBy _, Json.canonicalEntries_iff.mpr fun e he => ?_⟩
      obtain ⟨key, hmem⟩ := exists_mem_of_mem_putAllBy he
      exact canonical_of_mem_toJsonEntries entries (key, e.2) hmem

lemma canonicalItems_toJsonItems :
    (items : List Value) → Json.CanonicalItems (Value.toJsonItems items)
  | [] => trivial
  | item :: items => ⟨canonical_reduced item, canonicalItems_toJsonItems items⟩

lemma canonical_of_mem_toJsonEntries :
    (entries : List (Value × Value)) → ∀ e ∈ Value.toJsonEntries entries, e.2.Canonical
  | [] => fun e he => absurd he List.not_mem_nil
  | (key, value) :: entries => by
      have hvalue := canonical_reduced value
      have hentries := canonical_of_mem_toJsonEntries entries
      rw [Value.toJsonEntries, toJson?_eq_ite]
      cases value.isExpressible with
      | false => exact hentries
      | true => exact List.forall_mem_cons.mpr ⟨hvalue, hentries⟩

end

/-! ### What is reduced keeps within limits -/

lemma exceeded_levels {levels : Nat} (h : levels ≤ mostOpenSteps) :
    JsonLimits.exceeded JsonLimits.usual.levels levels = false :=
  decide_eq_false (Nat.not_lt.mpr h)

lemma exceeded_length_decimal {n most : Nat} (hmost : most ≠ 0) (h : n < 10 ^ most) :
    JsonLimits.exceeded (some most) (decimal n).length = false :=
  decide_eq_false (Nat.not_lt.mpr ((length_numeral_le_iff (by decide) hmost).mpr h))

lemma digitBound_eq : digitBound = 10 ^ mostDigits := by
  -- The exponent is made a variable so that the power is not computed.
  unfold digitBound
  generalize mostDigits = most
  rfl

lemma exceeded_digits {n : Nat} (h : ¬digitBound ≤ n) :
    JsonLimits.exceeded JsonLimits.usual.digits (decimal n).length = false := by
  rw [digitBound_eq] at h
  exact exceeded_length_decimal (by decide) (Nat.lt_of_not_le h)

mutual

/-- What a value is reduced to keeps within the usual limits if its literal can be written: a
level of the literal takes at least two open steps. -/
lemma fits_reduced :
    (v : Value) → (levels : Nat) → 2 * levels + v.openSteps 2 3 ≤ mostOpenSteps →
      v.hasLongInteger = false → v.reduced.Fits .usual levels
  | .null, _, _, _ => trivial
  | .bool b, _, _, _ => trivial
  | .int n, _, _, hdigits => by
      rw [Value.hasLongInteger, decide_eq_false_iff_not] at hdigits
      exact exceeded_digits hdigits
  | .float x, _, _, _ => by
      rw [Value.reduced, Value.toJson?, Option.getD_some]
      split <;> trivial
  | .nan _, _, _, _ => trivial
  | .str text, _, _, _ => trivial
  | .unpaired text, _, _, _ => trivial
  | .bytes _, _, _, _ => trivial
  | .function _, _, _, _ => trivial
  | .date _, _, _, _ => trivial
  | .time _, _, _, _ => trivial
  | .moment _, _, _, _ => trivial
  | .list items, levels, hsteps, hdigits => by
      rw [Value.openSteps] at hsteps
      exact ⟨exceeded_levels (by omega),
        fitItems_toJsonItems items (levels + 1) (by omega) hdigits⟩
  | .tuple items, levels, hsteps, hdigits => by
      rw [Value.openSteps] at hsteps
      exact ⟨exceeded_levels (by omega),
        fitItems_toJsonItems items (levels + 1) (by omega) hdigits⟩
  -- an entry of what is left is what a value of the mapping is reduced to
  | .map entries, levels, hsteps, hdigits => by
      rw [Value.openSteps] at hsteps
      refine ⟨exceeded_levels (by omega), Json.fitEntries_iff.mpr fun e he => ?_⟩
      obtain ⟨key, hmem⟩ := exists_mem_of_mem_putAllBy he
      exact fits_of_mem_toJsonEntries entries (levels + 1) (by omega) hdigits (key, e.2) hmem

lemma fitItems_toJsonItems :
    (items : List Value) → (levels : Nat) →
      2 * levels + Value.openStepsItems 2 3 items ≤ mostOpenSteps →
      Value.hasLongIntegerItems items = false →
      Json.FitItems .usual levels (Value.toJsonItems items)
  | [], _, _, _ => trivial
  | item :: items, levels, hsteps, hdigits => by
      rw [Value.openStepsItems] at hsteps
      rw [Value.hasLongIntegerItems, Bool.or_eq_false_iff] at hdigits
      exact ⟨fits_reduced item levels (by omega) hdigits.1,
        fitItems_toJsonItems items levels (by omega) hdigits.2⟩

lemma fits_of_mem_toJsonEntries :
    (entries : List (Value × Value)) → (levels : Nat) →
      2 * levels + Value.openStepsEntries 2 3 entries ≤ mostOpenSteps →
      Value.hasLongIntegerEntries entries = false →
      ∀ e ∈ Value.toJsonEntries entries, e.2.Fits .usual levels
  | [], _, _, _ => fun e he => absurd he List.not_mem_nil
  | (key, value) :: entries, levels, hsteps, hdigits => by
      rw [Value.openStepsEntries] at hsteps
      rw [Value.hasLongIntegerEntries, Bool.or_eq_false_iff, Bool.or_eq_false_iff] at hdigits
      have hvalue := fits_reduced value levels (by omega) hdigits.1.2
      have hentries := fits_of_mem_toJsonEntries entries levels (by omega) hdigits.2
      rw [Value.toJsonEntries, toJson?_eq_ite]
      cases value.isExpressible with
      | false => exact hentries
      | true => exact List.forall_mem_cons.mpr ⟨hvalue, hentries⟩

end

lemma fits_of_literalExcess? {v : Value} (h : v.literalExcess? = none) :
    v.reduced.Fits .usual 0 := by
  rw [Value.literalExcess?] at h
  split at h
  · exact absurd h (by simp)
  · next hsteps =>
      split at h
      · exact absurd h (by simp)
      · next hdigits => exact fits_reduced v 0 (by omega) (by simpa using hdigits)

/-! ### Literals -/

lemma jsonLiteral_of_isExpressible {v : Value} (h : v.isExpressible = true) :
    jsonLiteral v = v.reduced.write .compact := by
  rw [jsonLiteral, toJson?_eq_ite, if_pos h]

/-- A literal is plain text. -/
theorem isPlain_jsonLiteral (v : Value) : IsPlain (jsonLiteral v) := by
  rw [jsonLiteral]
  split
  · exact isPlain_write (by decide) (by decide) _
  · decide

lemma isPlain_codeLiteral (v : Value) (null : Bool) : IsPlain (codeLiteral v null) := by
  rw [codeLiteral.eq_def]
  split
  · cases null <;> decide
  · exact isPlain_jsonLiteral v

/-- A literal is plain text; it is read back as the normal form of its value, also within the
usual limits if nothing kept it from being written; and the normal form has the same
literal. -/
theorem jsonLiteral_reads_back {v : Value} (hexpressible : v.isExpressible = true)
    (hpaired : v.isPaired = true) :
    IsPlain (jsonLiteral v) ∧
      ∃ json, readJsonWithin .none (jsonLiteral v) = .ok json ∧
        (v.literalExcess? = none → readJson (jsonLiteral v) = .ok json) ∧
        json.toValue = v.normal ∧ jsonLiteral json.toValue = jsonLiteral v := by
  have hcanonical := canonical_reduced v
  have hliteral := jsonLiteral_of_isExpressible hexpressible
  refine ⟨isPlain_jsonLiteral v, v.reduced, ?_, fun hexcess => ?_, toValue_reduced v hpaired, ?_⟩
  · rw [hliteral]
    exact readJsonWithin_write hcanonical (Json.fits_none 0 v.reduced)
  · rw [hliteral]
    exact readJsonWithin_write hcanonical (fits_of_literalExcess? hexcess)
  · rw [hliteral, jsonLiteral, toJson?_toValue v.reduced hcanonical]

/-- A mapping with texts, numbers and lists, two keys of the same text, and a function as a value
and as an item. -/
def mixedValue : Value :=
  .map [
    (.int 1, .int (-70)),
    (.str "quote\"", .tuple [.null, .float (.ofDecimal true 15 (-1)), .float .nan, .function 1]),
    (.float (.ofDecimal false 1 300), .function 2),
    (.str "1", .map [(.null, .str "😀\u007F")])]

theorem jsonLiteral_mixedValue_reads_back :
    IsPlain (jsonLiteral mixedValue) ∧
      ∃ json, readJsonWithin .none (jsonLiteral mixedValue) = .ok json ∧
        (mixedValue.literalExcess? = none → readJson (jsonLiteral mixedValue) = .ok json) ∧
        json.toValue = mixedValue.normal ∧
        jsonLiteral json.toValue = jsonLiteral mixedValue :=
  jsonLiteral_reads_back (by decide) (by decide +kernel)

end HotReload
