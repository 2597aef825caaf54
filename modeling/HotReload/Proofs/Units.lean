import Mathlib.Data.List.Basic
import HotReload.Value
/-!
UTF-16 code units: rows of code points are read back from their units, and units from the row that
is read from them.

* `text?_raw`, `eq_raw_of_text?`: a text is the row of its characters.
* `rawOfUnits_charUnits_append`: one character, by one unit or by a pair.
* `rawOfUnits_units`: a whole text. `units_injective` follows.
* `units_rawOfUnits`: the other way round, what is read from units has these units.
-/

namespace HotReload

/-! ### Texts as rows of code points -/

lemma text?_raw (text : Text) : RawText.text? text.raw = some text := by
  induction text with
  | nil => rfl
  | cons c text ih =>
      rw [Text.raw, List.map_cons, RawText.text?, ← Text.raw, ih]
      rfl

/-- A row that is a text has no surrogate in it. -/
lemma eq_raw_of_text? {raw : RawText} {text : Text} (h : raw.text? = some text) :
    raw = text.raw := by
  induction raw generalizing text with
  | nil =>
      obtain rfl := Option.some.inj h
      rfl
  | cons point raw ih =>
      cases point with
      | half surrogate => exact absurd h (by simp [RawText.text?])
      | char c =>
          obtain ⟨more, hmore, rfl⟩ := Option.map_eq_some_iff.mp h
          rw [ih hmore, Text.raw, Text.raw, List.map_cons]

lemma units_raw (text : Text) : RawText.units text.raw = text.units := by
  rw [RawText.units, Text.raw, List.flatMap_map]
  rfl

/-- A row of code points is a text as a value, with or without a surrogate. -/
lemma valueOfRaw_cases (raw : RawText) :
    (∃ text, valueOfRaw raw = .str text) ∨ ∃ text, valueOfRaw raw = .unpaired text := by
  unfold valueOfRaw
  split
  · exact .inl ⟨_, rfl⟩
  · exact .inr ⟨_, rfl⟩

/-- A row with a surrogate is not empty. -/
lemma HalvedText.exists_cons (text : HalvedText) : ∃ point rest, text.raw = point :: rest := by
  obtain ⟨raw, halved⟩ := text
  cases raw with
  | nil => exact absurd halved (by simp [RawText.text?])
  | cons point rest => exact ⟨point, rest, rfl⟩

lemma valueOfRaw_raw (text : Text) : valueOfRaw text.raw = .str text := by
  unfold valueOfRaw
  split
  · next other hother =>
      rw [text?_raw] at hother
      rw [Option.some.inj hother]
  · next hnone =>
      rw [text?_raw] at hnone
      exact absurd hnone (by simp)

/-! ### From a row to units and back -/

lemma isHighSurrogate_iff (u : UInt16) :
    isHighSurrogate u = true ↔ 0xD800 ≤ u.toNat ∧ u.toNat < 0xDC00 := by
  simp [isHighSurrogate, UInt16.le_iff_toNat_le, UInt16.lt_iff_toNat_lt]

lemma isLowSurrogate_iff (u : UInt16) :
    isLowSurrogate u = true ↔ 0xDC00 ≤ u.toNat ∧ u.toNat < 0xE000 := by
  simp [isLowSurrogate, UInt16.le_iff_toNat_le, UInt16.lt_iff_toNat_lt]

/-- A unit that is no surrogate stands for a character by itself. -/
lemma codePointOfUnit_of_not {u : UInt16} (h : isSurrogate u = false) :
    codePointOfUnit u = .char (Char.ofNat u.toNat) := by
  rw [codePointOfUnit, dif_neg (by simp [h])]

lemma rawOfUnits_cons {u : UInt16} (h : isSurrogate u = false) (rest : List UInt16) :
    rawOfUnits (u :: rest) = .char (Char.ofNat u.toNat) :: rawOfUnits rest := by
  have hhigh : isHighSurrogate u = false := by
    rw [isSurrogate, Bool.or_eq_false_iff] at h
    exact h.1
  cases rest with
  | nil => simp [rawOfUnits, codePointOfUnit_of_not h]
  | cons v rest => simp [rawOfUnits, hhigh, codePointOfUnit_of_not h]

/-- A character is read back from its units. -/
lemma rawOfUnits_charUnits_append (c : Char) (rest : List UInt16) :
    rawOfUnits (charUnits c ++ rest) = .char c :: rawOfUnits rest := by
  have hvalid : c.toNat < 0xD800 ∨ 0xDFFF < c.toNat ∧ c.toNat < 0x110000 := c.valid
  by_cases hplane : c.toNat < 0x10000
  · have hunit : c.toNat.toUInt16.toNat = c.toNat := by
      simp only [Nat.toUInt16_eq, UInt16.toNat_ofNat']
      omega
    have hwhole : isSurrogate c.toNat.toUInt16 = false := by
      rw [isSurrogate, Bool.or_eq_false_iff, Bool.eq_false_iff, Bool.eq_false_iff, Ne, Ne,
        isHighSurrogate_iff, isLowSurrogate_iff, hunit]
      omega
    rw [charUnits, if_pos hplane, List.singleton_append, rawOfUnits_cons hwhole, hunit,
      Char.ofNat_toNat]
  -- two units: each half is in its range, and put together they give the code point
  · have hhighNat : (0xD800 + (c.toNat - 0x10000) / 0x400).toUInt16.toNat =
        0xD800 + (c.toNat - 0x10000) / 0x400 := by
      simp only [Nat.toUInt16_eq, UInt16.toNat_ofNat']
      omega
    have hlowNat : (0xDC00 + (c.toNat - 0x10000) % 0x400).toUInt16.toNat =
        0xDC00 + (c.toNat - 0x10000) % 0x400 := by
      simp only [Nat.toUInt16_eq, UInt16.toNat_ofNat']
      omega
    have hhigh : isHighSurrogate (0xD800 + (c.toNat - 0x10000) / 0x400).toUInt16 = true := by
      rw [isHighSurrogate_iff, hhighNat]
      omega
    have hlow : isLowSurrogate (0xDC00 + (c.toNat - 0x10000) % 0x400).toUInt16 = true := by
      rw [isLowSurrogate_iff, hlowNat]
      omega
    have hcode : 0x10000 + (0xD800 + (c.toNat - 0x10000) / 0x400 - 0xD800) * 0x400 +
        (0xDC00 + (c.toNat - 0x10000) % 0x400 - 0xDC00) = c.toNat := by
      omega
    rw [charUnits, if_neg hplane, List.cons_append, List.singleton_append, rawOfUnits, hhigh,
      hlow, Bool.and_self, if_pos rfl, pairedChar, hhighNat, hlowNat, hcode, Char.ofNat_toNat]

/-- A text is read back from its units. -/
theorem rawOfUnits_units (text : Text) : rawOfUnits text.units = text.raw := by
  induction text with
  | nil => rfl
  | cons c text ih =>
      have hunits : Text.units (c :: text) = charUnits c ++ Text.units text := rfl
      rw [hunits, rawOfUnits_charUnits_append, ih]
      rfl

lemma units_append (text text' : Text) : (text ++ text').units = text.units ++ text'.units :=
  List.flatMap_append

lemma units_injective : Function.Injective Text.units := by
  intro text text' h
  have hraw : text.raw = text'.raw := by
    rw [← rawOfUnits_units, ← rawOfUnits_units, h]
  have htext := text?_raw text
  rw [hraw, text?_raw] at htext
  exact (Option.some.inj htext).symm

/-! ### From units to a row -/

lemma toNat_ofNat_of_lt {n : Nat} (h : n < 0xD800 ∨ 0xDFFF < n ∧ n < 0x110000) :
    (Char.ofNat n).toNat = n := by
  have hvalid : n.isValidChar := h
  rw [Char.ofNat, dif_pos hvalid]
  rfl

/-- A unit is that of the code point that is read from it. -/
lemma units_codePointOfUnit (u : UInt16) : (codePointOfUnit u).units = [u] := by
  rw [codePointOfUnit]
  split
  · rfl
  · next h =>
      rw [Bool.not_eq_true, isSurrogate, Bool.or_eq_false_iff, Bool.eq_false_iff,
        Bool.eq_false_iff, Ne, Ne, isHighSurrogate_iff, isLowSurrogate_iff] at h
      have hlt := u.toNat_lt
      rw [CodePoint.units, charUnits, toNat_ofNat_of_lt (by omega), if_pos (by omega)]
      simp

/-- A high and a low surrogate are the units of one character. -/
lemma charUnits_pairedChar {u v : UInt16} (hhigh : isHighSurrogate u = true)
    (hlow : isLowSurrogate v = true) : charUnits (pairedChar u v) = [u, v] := by
  rw [isHighSurrogate_iff] at hhigh
  rw [isLowSurrogate_iff] at hlow
  have hfirst : 0xD800 + (0x10000 + (u.toNat - 0xD800) * 0x400 + (v.toNat - 0xDC00) - 0x10000) /
      0x400 = u.toNat := by
    omega
  have hsecond : 0xDC00 + (0x10000 + (u.toNat - 0xD800) * 0x400 + (v.toNat - 0xDC00) - 0x10000) %
      0x400 = v.toNat := by
    omega
  rw [charUnits, pairedChar, toNat_ofNat_of_lt (by omega), if_neg (by omega), hfirst, hsecond]
  simp

/-- What is read from units has these units. -/
theorem units_rawOfUnits (units : List UInt16) : (rawOfUnits units).units = units := by
  induction units using rawOfUnits.induct with
  | case1 => rfl
  | case2 u =>
      rw [rawOfUnits, RawText.units, List.flatMap_singleton, units_codePointOfUnit]
  | case3 u v rest hpair ih =>
      rw [rawOfUnits, if_pos hpair]
      rw [Bool.and_eq_true] at hpair
      rw [RawText.units, List.flatMap_cons, CodePoint.units,
        charUnits_pairedChar hpair.1 hpair.2]
      exact congrArg (u :: v :: ·) ih
  | case4 u v rest hpair ih =>
      rw [rawOfUnits, if_neg hpair, RawText.units, List.flatMap_cons, units_codePointOfUnit]
      exact congrArg (u :: ·) ih

end HotReload
