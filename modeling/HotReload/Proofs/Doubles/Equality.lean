import HotReload.Proofs.Doubles.Text
/-!
Equality of doubles is that of the rationals that they stand for.

* `Double.magnitude_eq_of_value_eq`: a magnitude is determined by its value.
* `Double.equals_iff`: finite doubles are equal just if their signed values are.
* `Double.equalsInt_iff`: so is a finite double to an integer.
-/

namespace HotReload

namespace Double

variable {x y : Double}

lemma value_nonneg (x : Double) : 0 ≤ x.value :=
  mul_nonneg (Nat.cast_nonneg _) (two_zpow_pos _).le

lemma value_eq_zero_iff : x.value = 0 ↔ x.isZero = true := by
  have hpower : (2 : ℚ) ^ x.exponent ≠ 0 := (two_zpow_pos _).ne'
  rw [value, mul_eq_zero, or_iff_left hpower, Nat.cast_eq_zero]
  constructor
  · intro hmantissa
    by_contra hzero
    exact mantissa_ne_zero (by simpa using hzero) hmantissa
  · intro hzero
    have hfields : x.exponentField = 0 ∧ x.fractionField = 0 := by simpa [isZero] using hzero
    rw [mantissa, if_pos hfields.1, hfields.2]

/-- With a greater exponent, a long mantissa makes the value greater. -/
lemma exponent_le_of_value_eq (h : x.value = y.value) : x.exponent ≤ y.exponent := by
  by_contra hlt
  -- an exponent above another is not the smallest, so that no bit of the mantissa is missing
  have hlong : powerOfTwo 52 ≤ x.mantissa := by
    by_contra hshort
    have hx := exponent_of_mantissa_lt (not_le.mp hshort)
    have hy := exponent_ge y
    omega
  have hlongQ : (2 : ℚ) ^ (52 : Int) ≤ x.mantissa := by
    have hpower : ((powerOfTwo 52 : ℕ) : ℚ) = 2 ^ (52 : Int) := cast_powerOfTwo_zpow 52
    rw [← hpower]
    exact_mod_cast hlong
  have hmantissa : (y.mantissa : ℚ) < 2 ^ (53 : Int) := by
    exact_mod_cast (mantissa_lt y : y.mantissa < 2 ^ 53)
  have hexponent : (2 : ℚ) ^ (y.exponent + 1) ≤ 2 ^ x.exponent :=
    zpow_le_zpow_right₀ (by norm_num) (by omega)
  have hless : y.value < x.value :=
    calc y.value = y.mantissa * 2 ^ y.exponent := rfl
      _ < 2 ^ (53 : Int) * 2 ^ y.exponent := mul_lt_mul_of_pos_right hmantissa (two_zpow_pos _)
      _ = 2 ^ (52 : Int) * 2 ^ (y.exponent + 1) := by
          rw [zpow_add_one₀ two_ne_zero]
          norm_num
          ring
      _ ≤ x.mantissa * 2 ^ x.exponent :=
          mul_le_mul hlongQ hexponent (two_zpow_pos _).le (Nat.cast_nonneg _)
      _ = x.value := rfl
  exact absurd h hless.ne'

lemma magnitude_eq_of_value_eq (h : x.value = y.value) : x.magnitude = y.magnitude := by
  have hexponent : x.exponent = y.exponent :=
    le_antisymm (exponent_le_of_value_eq h) (exponent_le_of_value_eq h.symm)
  have hmantissa : x.mantissa = y.mantissa := by
    rw [value, value, hexponent] at h
    exact_mod_cast mul_right_cancel₀ (two_zpow_pos y.exponent).ne' h
  rw [magnitude_eq_encoded, magnitude_eq_encoded, hexponent, hmantissa]

/-- The value of a finite double. -/
def signedValue (x : Double) : ℚ := if x.isNegative then -x.value else x.value

lemma isNaN_of_isFinite (h : x.isFinite = true) : x.isNaN = false := by
  rw [isNaN, h]
  rfl

/-- The two zeros are equal, and no other two doubles with different bits. -/
lemma equals_iff (hx : x.isFinite = true) (hy : y.isFinite = true) :
    x.equals y = true ↔ x.signedValue = y.signedValue := by
  have hequals : x.equals y = true ↔ x = y ∨ x.isZero = true ∧ y.isZero = true := by
    simp [equals, isNaN_of_isFinite hx, isNaN_of_isFinite hy]
  rw [hequals, ← value_eq_zero_iff, ← value_eq_zero_iff]
  constructor
  · rintro (rfl | ⟨hzero, hzero'⟩)
    · rfl
    · simp [signedValue, hzero, hzero']
  · intro h
    have hxpos := value_nonneg x
    have hypos := value_nonneg y
    -- with one sign the magnitudes are equal, with two both must be zero
    by_cases hsign : x.isNegative = y.isNegative
    · have hvalue : x.value = y.value := by
        rw [signedValue, signedValue, hsign] at h
        split at h
        · exact neg_injective h
        · exact h
      refine .inl ?_
      rw [← withSign_magnitude x, ← withSign_magnitude y, hsign, magnitude_eq_of_value_eq hvalue]
    · refine .inr ?_
      rw [signedValue, signedValue] at h
      cases hxsign : x.isNegative <;> cases hysign : y.isNegative <;>
        simp only [hxsign, hysign, if_true, not_true_eq_false] at h hsign
      · exact ⟨by simp at h; linarith, by simp at h; linarith⟩
      · exact ⟨by simp at h; linarith, by simp at h; linarith⟩

/-- A double that is not finite equals itself alone, if it is a number. -/
lemma equals_iff_of_not_finite (h : x.isFinite = false) :
    x.equals y = true ↔ x.isNaN = false ∧ x = y := by
  have hfield : x.exponentField = 2047 := by simpa [isFinite] using h
  have hzero : x.isZero = false := by simp [isZero, hfield]
  rw [equals, hzero]
  constructor
  · intro hequals
    simp only [Bool.false_and, Bool.or_false, Bool.and_eq_true, Bool.not_eq_true',
      beq_iff_eq] at hequals
    exact ⟨hequals.1.1, hequals.2⟩
  · rintro ⟨hnan, rfl⟩
    simp [hnan]

lemma equals_comm (x y : Double) : x.equals y = y.equals x := by
  rw [equals, equals, Bool.and_comm (!x.isNaN), Bool.and_comm x.isZero, BEq.comm (a := x)]

/-- The comparison of the magnitude with that of an integer. -/
lemma value_eq_natAbs_iff (x : Double) (n : Int) :
    (if 0 ≤ x.exponent then x.mantissa * powerOfTwo x.exponent.toNat == n.natAbs
      else x.mantissa == n.natAbs * powerOfTwo (-x.exponent).toNat) = true ↔
        x.value = n.natAbs := by
  rw [value]
  split
  · next hq =>
      rw [beq_iff_eq, zpow_of_nonneg 2 hq, ← cast_powerOfTwo, ← Nat.cast_mul, Nat.cast_inj]
  · next hq =>
      have hpower : (0 : ℚ) < 2 ^ (-x.exponent).toNat := by positivity
      rw [beq_iff_eq, zpow_of_neg 2 hq, ← div_eq_mul_inv, div_eq_iff hpower.ne',
        ← cast_powerOfTwo, ← Nat.cast_mul, Nat.cast_inj]

lemma equalsInt_iff (hx : x.isFinite = true) (n : Int) :
    x.equalsInt n = true ↔ x.signedValue = n := by
  have hpos := value_nonneg x
  rw [equalsInt]
  rw [Bool.and_eq_true, Bool.and_eq_true, value_eq_natAbs_iff, Nat.cast_natAbs, signedValue]
  simp only [hx, true_and, Bool.or_eq_true, beq_iff_eq]
  -- the sign of the number decides which sign the double must have
  rcases lt_trichotomy n 0 with hn | rfl | hn
  · have hnQ : (n : ℚ) < 0 := by exact_mod_cast hn
    rw [abs_of_neg hn]
    cases x.isNegative
    · have hne : x.value ≠ n := by linarith
      simp [hn, hn.ne, hne]
    · simp [hn, neg_eq_iff_eq_neg]
  · cases x.isNegative <;> simp
  · have hnQ : (0 : ℚ) < n := by exact_mod_cast hn
    rw [abs_of_pos hn]
    cases x.isNegative
    · simp [hn.le]
    · have hne : -x.value ≠ n := by linarith
      simp [hn.ne', hn.le, hne]

end Double

end HotReload
