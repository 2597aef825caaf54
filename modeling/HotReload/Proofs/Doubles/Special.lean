import HotReload.Proofs.Doubles.Shortest
/-!
Doubles that are not finite.

* `Double.infinity_isNegative`: a double that is not finite is infinity, if it is a number.
* `Double.isNaN_ofDecimal`: what is read of a decimal is a number.
-/

namespace HotReload

namespace Double

variable {x : Double}

lemma exponentField_of_not_finite (h : x.isFinite = false) : x.exponentField = 2047 := by
  simpa [isFinite] using h

/-- Infinity of its sign is all that a number can be which is not finite. -/
lemma infinity_isNegative (hfinite : x.isFinite = false) (hnan : x.isNaN = false) :
    infinity x.isNegative = x := by
  have hfraction : x.fractionField = 0 := by simpa [isNaN, hfinite] using hnan
  have hmagnitude : x.magnitude = infinityBits := by
    rw [magnitude, exponentField_of_not_finite hfinite, hfraction, Nat.add_zero, infinityBits]
  rw [infinity, ← hmagnitude]
  exact withSign_magnitude x

/-- The bits of no number stand behind those of infinity. -/
lemma infinityBits_lt_magnitude (h : x.isNaN = true) : infinityBits < x.magnitude := by
  rw [isNaN, Bool.and_eq_true, Bool.not_eq_true', bne_iff_ne] at h
  rw [magnitude, exponentField_of_not_finite h.1, infinityBits]
  exact Nat.lt_add_of_pos_right (Nat.pos_of_ne_zero h.2)

lemma magnitude_withSign (negative : Bool) {m : ℕ} (h : m < powerOfTwo 63) :
    (withSign negative m).magnitude = m := by
  have hfields : powerOfTwo 52 = 2 ^ 52 ∧ powerOfTwo 63 = 2 ^ 63 ∧ powerOfTwo 11 = 2 ^ 11 :=
    ⟨rfl, rfl, rfl⟩
  have hbits : (withSign negative m).bits.toNat =
      ((if negative then powerOfTwo 63 else 0) + m) % 2 ^ 64 := UInt64.toNat_ofNat'
  rw [magnitude, exponentField, fractionField, hbits]
  simp only [hfields] at h ⊢
  cases negative <;> simp <;> omega

lemma isNaN_withSign (negative : Bool) {m : ℕ} (h : m ≤ infinityBits) :
    (withSign negative m).isNaN = false := by
  have hbound : infinityBits < powerOfTwo 63 := by decide
  rw [Bool.eq_false_iff]
  intro hnan
  have hlt := infinityBits_lt_magnitude hnan
  rw [magnitude_withSign negative (h.trans_lt hbound)] at hlt
  exact absurd h (Nat.not_le_of_lt hlt)

lemma nearestBits_le (num den : ℕ) : nearestBits num den ≤ infinityBits := Nat.min_le_right _ _

/-- What is read of a decimal is a number. -/
lemma isNaN_ofDecimal (negative : Bool) (m : ℕ) (e : Int) :
    (ofDecimal negative m e).isNaN = false := by
  rw [ofDecimal]
  split_ifs
  · exact isNaN_withSign negative (Nat.zero_le _)
  · exact isNaN_withSign negative le_rfl
  · exact isNaN_withSign negative (nearestBits_le _ _)
  · exact isNaN_withSign negative (nearestBits_le _ _)

end Double

end HotReload
