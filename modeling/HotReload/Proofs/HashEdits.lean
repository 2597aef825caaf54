import Mathlib.Data.List.Basic
import HotReload.Proofs.Numerals
import HotReload.Proofs.Units
import HotReload.Stylesheet
/-!
Edits that the hash cannot miss.

* `hashStep_injective`, `hashStep_unit_injective`: a step of the hash loses neither the value so
  far, as it multiplies by an odd number, nor the unit.
* `hashUnits_append_inj`: what stands before two rows of units does not matter to whether their
  hashes are equal.
* `hashUnits_ne_of_differInOne`: rows that differ in one unit (`DifferInOne`) have different
  hashes.
* `hash_separates_one_unit`: the same of texts, and of the code of components with one style id
  that is not empty; `not_nonCssHash_separates_one_unit`: an empty one has no hash.
-/

namespace HotReload

/-! ### Steps -/

/-- The shift and the difference multiply by thirty-one. -/
lemma shiftLeft_sub_self (value : UInt32) : (value <<< 5) - value = value * 31 := by
  have hlt := value.toNat_lt
  refine UInt32.toNat_inj.mp ?_
  rw [UInt32.toNat_sub, UInt32.toNat_shiftLeft, UInt32.toNat_mul, Nat.shiftLeft_eq]
  simp only [UInt32.toNat_ofNat, Nat.reduceMod, Nat.reducePow]
  omega

/-- Thirty-one is odd, so a multiplication by it can be undone. -/
lemma mul_thirtyOne_injective : Function.Injective fun value : UInt32 => value * 31 := by
  have hinverse : (31 : UInt32) * 3186588639 = 1 := by decide
  refine Function.LeftInverse.injective (g := fun value => value * 3186588639) fun value => ?_
  show value * 31 * 3186588639 = value
  rw [UInt32.mul_assoc, hinverse, UInt32.mul_one]

/-- A step keeps different values different. -/
lemma hashStep_injective (unit : UInt16) : Function.Injective (hashStep unit) := by
  intro value value' h
  rw [hashStep, hashStep, UInt32.xor_left_inj, shiftLeft_sub_self, shiftLeft_sub_self] at h
  exact mul_thirtyOne_injective h

/-- A step from one value keeps different units different. -/
lemma hashStep_unit_injective (value : UInt32) :
    Function.Injective fun unit => hashStep unit value := by
  intro unit unit' h
  exact UInt16.toUInt32_inj.mp ((UInt32.xor_right_inj _).mp h)

/-! ### Runs -/

/-- The units before what has been taken in keep different values different. -/
lemma foldr_hashStep_injective (lead : List UInt16) :
    Function.Injective fun value => lead.foldr hashStep value := by
  induction lead with
  | nil => exact Function.injective_id
  | cons unit lead ih => exact (hashStep_injective unit).comp ih

lemma hashValue_append (lead units : List UInt16) :
    hashValue (lead ++ units) = lead.foldr hashStep (hashValue units) := by
  rw [hashValue, hashValue, List.foldr_append]

lemma hashValue_append_inj {lead units units' : List UInt16} :
    hashValue (lead ++ units) = hashValue (lead ++ units') ↔
      hashValue units = hashValue units' := by
  rw [hashValue_append, hashValue_append]
  exact (foldr_hashStep_injective lead).eq_iff

/-- The hash of a row tells its value. -/
lemma hashUnits_eq_iff {units units' : List UInt16} :
    hashUnits units = hashUnits units' ↔ hashValue units = hashValue units' := by
  rw [hashUnits, hashUnits, numeral_inj (by decide) (by decide), UInt32.toNat_inj]

/-- The hashes of two rows behind one lead are equal just if those of the rows are. -/
lemma hashUnits_append_inj {lead units units' : List UInt16} :
    hashUnits (lead ++ units) = hashUnits (lead ++ units') ↔
      hashUnits units = hashUnits units' := by
  rw [hashUnits_eq_iff, hashUnits_eq_iff, hashValue_append_inj]

/-! ### One unit -/

/-- Rows of one length that differ in exactly one place. -/
def DifferInOne {α : Type} (xs ys : List α) : Prop :=
  xs.length = ys.length ∧ ∃! place : ℕ, xs[place]? ≠ ys[place]?

/-- Around the place where they differ, both rows are the same. -/
lemma differInOne_iff {α : Type} {xs ys : List α} :
    DifferInOne xs ys ↔
      ∃ lead x y rest, x ≠ y ∧ xs = lead ++ x :: rest ∧ ys = lead ++ y :: rest := by
  constructor
  · rintro ⟨hlength, place, hplace, hunique⟩
    have hsame (other : ℕ) (hother : other ≠ place) : xs[other]? = ys[other]? :=
      not_not.mp (mt (hunique other) hother)
    have hlt : place < xs.length := by
      by_contra hge
      rw [List.getElem?_eq_none (by omega), List.getElem?_eq_none (by omega)] at hplace
      exact hplace rfl
    have hlt' : place < ys.length := hlength ▸ hlt
    -- away from the place, what stands before it and behind it is the same in both rows
    have hlead : xs.take place = ys.take place := by
      refine List.ext_getElem? fun other => ?_
      rw [List.getElem?_take, List.getElem?_take]
      split
      · exact hsame other (by omega)
      · rfl
    have hrest : xs.drop (place + 1) = ys.drop (place + 1) := by
      refine List.ext_getElem? fun other => ?_
      rw [List.getElem?_drop, List.getElem?_drop]
      exact hsame _ (by omega)
    refine ⟨xs.take place, xs[place], ys[place], xs.drop (place + 1), ?_, ?_, ?_⟩
    · intro heq
      rw [List.getElem?_eq_getElem hlt, List.getElem?_eq_getElem hlt', heq] at hplace
      exact hplace rfl
    · rw [← List.drop_eq_getElem_cons hlt, List.take_append_drop]
    · rw [hlead, hrest, ← List.drop_eq_getElem_cons hlt', List.take_append_drop]
  · rintro ⟨lead, x, y, rest, hne, rfl, rfl⟩
    refine ⟨by simp, lead.length, ?_, fun other hother => ?_⟩
    · simpa using hne
    · by_contra hplace
      dsimp only at hother
      -- an item before the place stands in the lead, one behind it in the rest
      rcases Nat.lt_or_gt_of_ne hplace with hlt | hgt
      · rw [List.getElem?_append_left hlt, List.getElem?_append_left hlt] at hother
        exact hother rfl
      · obtain ⟨more, rfl⟩ := Nat.exists_eq_add_of_lt hgt
        rw [List.getElem?_append_right (by omega), List.getElem?_append_right (by omega)] at hother
        simp [Nat.add_assoc] at hother

/-- One unit makes a difference. -/
lemma hashUnits_ne_of_differInOne {units units' : List UInt16} (h : DifferInOne units units') :
    hashUnits units ≠ hashUnits units' := by
  obtain ⟨lead, unit, unit', rest, hne, rfl, rfl⟩ := differInOne_iff.mp h
  rw [Ne, hashUnits_eq_iff, hashValue_append_inj]
  exact fun hstep => hne (hashStep_unit_injective (hashValue rest) hstep)

/-! ### The code of a component -/

/-- What is hashed of code with a stylesheet: all but the function, without the hash of its
styles. -/
def hashedCode (cut : StylesheetCut) (id : Text) : Text :=
  if (styleHash id).isEmpty then cut.remainder else removeWord (styleHash id) cut.remainder

lemma nonCssHash_of_cut {code id : Text} {cut : StylesheetCut}
    (hcut : cutStylesheet code = some cut) (hid : styleId? cut.body = some id) (hne : id ≠ []) :
    (readStylesheet code true).result.map (·.nonCssHash) =
      .ok (some (hashText (hashedCode cut id))) := by
  rw [result_readStylesheet]
  simp [Stylesheet.ofCode, hcut, hid, hne, Except.map, nonCssHash, hashedCode]

/-- **Edits of one unit**. Rows of units that differ in one unit have different hashes, and so have
texts; behind one lead, the hashes of two rows or texts are equal just if they are without the lead.
So the hash of everything but the styles differs for two components with one style id that is not
empty, if what is hashed of them differs in one unit. -/
theorem hash_separates_one_unit :
    (∀ units units', DifferInOne units units' → hashUnits units ≠ hashUnits units') ∧
      (∀ lead units units', hashUnits (lead ++ units) = hashUnits (lead ++ units') ↔
        hashUnits units = hashUnits units') ∧
      (∀ text text' : Text, DifferInOne text.units text'.units → hashText text ≠ hashText text') ∧
      (∀ lead text text' : Text, hashText (lead ++ text) = hashText (lead ++ text') ↔
        hashText text = hashText text') ∧
      ∀ (code code' : Text) (cut cut' : StylesheetCut) (id : Text),
        cutStylesheet code = some cut → cutStylesheet code' = some cut' →
        styleId? cut.body = some id → styleId? cut'.body = some id → id ≠ [] →
        DifferInOne (hashedCode cut id).units (hashedCode cut' id).units →
        ∃ hash hash', (readStylesheet code true).result.map (·.nonCssHash) = .ok (some hash) ∧
          (readStylesheet code' true).result.map (·.nonCssHash) = .ok (some hash') ∧
          hash ≠ hash' := by
  refine ⟨fun _ _ => hashUnits_ne_of_differInOne, fun _ _ _ => hashUnits_append_inj,
    fun _ _ => hashUnits_ne_of_differInOne, fun lead text text' => ?_, ?_⟩
  · rw [hashText, hashText, units_append, units_append]
    exact hashUnits_append_inj
  · intro code code' cut cut' id hcut hcut' hid hid' hne hdiffer
    exact ⟨_, _, nonCssHash_of_cut hcut hid hne, nonCssHash_of_cut hcut' hid' hne,
      hashUnits_ne_of_differInOne hdiffer⟩

/-- Code whose stylesheet has the id `id`, with more code behind it, and how it is cut. -/
def styledWith (id more : Text) : Text :=
  "function add_css() \x7b\n\tstyle.id = '" ++ id ++ "';\n\x7d" ++ more

def styledWithCut (id more : Text) : StylesheetCut :=
  ⟨[], "function add_css() \x7b\n\tstyle.id = '" ++ id ++ "';\n\x7d", more⟩

theorem hash_separates_one_unit_styledWith :
    DifferInOne (hashedCode (styledWithCut "s-a9" "\nset('a9', x)") "s-a9").units
        (hashedCode (styledWithCut "s-a9" "\nset('a9', y)") "s-a9").units ∧
      ∃ hash hash',
        (readStylesheet (styledWith "s-a9" "\nset('a9', x)") true).result.map (·.nonCssHash) =
          .ok (some hash) ∧
        (readStylesheet (styledWith "s-a9" "\nset('a9', y)") true).result.map (·.nonCssHash) =
          .ok (some hash') ∧ hash ≠ hash' := by
  have hdiffer : DifferInOne (hashedCode (styledWithCut "s-a9" "\nset('a9', x)") "s-a9").units
      (hashedCode (styledWithCut "s-a9" "\nset('a9', y)") "s-a9").units :=
    differInOne_iff.mpr ⟨Text.units "\nset('', ", 120, 121, Text.units ")", by decide,
      by decide +kernel, by decide +kernel⟩
  exact ⟨hdiffer, hash_separates_one_unit.2.2.2.2 _ _ (styledWithCut "s-a9" "\nset('a9', x)")
    (styledWithCut "s-a9" "\nset('a9', y)") "s-a9" (by decide +kernel) (by decide +kernel)
    (by decide +kernel) (by decide +kernel) (by decide) hdiffer⟩

/-- A stylesheet with an empty id has no hash, so that no edit shows in it. -/
theorem not_nonCssHash_separates_one_unit :
    ¬ ∀ (code code' : Text) (cut cut' : StylesheetCut) (id : Text),
      cutStylesheet code = some cut → cutStylesheet code' = some cut' →
      styleId? cut.body = some id → styleId? cut'.body = some id →
      DifferInOne (hashedCode cut id).units (hashedCode cut' id).units →
      (readStylesheet code true).result.map (·.nonCssHash) ≠
        (readStylesheet code' true).result.map (·.nonCssHash) := by
  intro h
  have hdiffer : DifferInOne (hashedCode (styledWithCut [] "\na") []).units
      (hashedCode (styledWithCut [] "\nb") []).units :=
    differInOne_iff.mpr ⟨Text.units "\n", 97, 98, [], by decide, by decide +kernel,
      by decide +kernel⟩
  refine h (styledWith [] "\na") (styledWith [] "\nb") (styledWithCut [] "\na")
    (styledWithCut [] "\nb") [] (by decide +kernel) (by decide +kernel) (by decide +kernel)
    (by decide +kernel) hdiffer ?_
  decide +kernel

end HotReload
