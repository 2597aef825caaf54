import Mathlib.Algebra.Order.Field.Rat
import Mathlib.Algebra.Order.Field.Power
import Mathlib.Tactic.FieldSimp
import Mathlib.Tactic.Linarith
import Mathlib.Tactic.Positivity
import Mathlib.Tactic.Ring
import HotReload.Double
/-!
The double nearest to a fraction.

* `Double.RoundsTo`: a rational rounds to the magnitude of a double.
* `Double.nearestBits_of_roundsTo`: then its bits are found, whatever fraction is written for it.
-/

namespace HotReload

lemma powerOfTwo_eq (n : Nat) : powerOfTwo n = 2 ^ n := rfl

lemma powerOfTen_eq (n : Nat) : powerOfTen n = 10 ^ n := rfl

@[simp] lemma cast_powerOfTwo (n : Nat) : ((powerOfTwo n : ℕ) : ℚ) = 2 ^ n := by
  rw [powerOfTwo_eq, Nat.cast_pow, Nat.cast_ofNat]

@[simp] lemma cast_powerOfTen (n : Nat) : ((powerOfTen n : ℕ) : ℚ) = 10 ^ n := by
  rw [powerOfTen_eq, Nat.cast_pow, Nat.cast_ofNat]

lemma cast_powerOfTwo_zpow (n : Nat) : ((powerOfTwo n : ℕ) : ℚ) = 2 ^ (n : Int) := by
  rw [cast_powerOfTwo, zpow_natCast]

/-- A power with an exponent that is not negative. -/
lemma zpow_of_nonneg (b : ℚ) {q : Int} (hq : 0 ≤ q) : b ^ q = b ^ q.toNat := by
  rw [← zpow_natCast, Int.toNat_of_nonneg hq]

/-- A power with a negative exponent. -/
lemma zpow_of_neg (b : ℚ) {q : Int} (hq : ¬ 0 ≤ q) : b ^ q = (b ^ (-q).toNat)⁻¹ := by
  rw [← zpow_natCast, Int.toNat_of_nonneg (by omega), zpow_neg, inv_inv]

lemma powerOfTwo_pos (n : Nat) : 0 < powerOfTwo n := Nat.two_pow_pos n

lemma powerOfTen_pos (n : Nat) : 0 < powerOfTen n := Nat.pow_pos (by decide)

namespace Double

variable {num den : Nat}

/-! ### Rounding a quotient -/

/-- The quotient rounds to a number next to it, with all sides taken times twice the
denominator. -/
lemma roundedQuotient_eq_of_mul {k : Nat} (hden : 0 < den) (hlow : 2 * k * den ≤ 2 * num + den)
    (hhigh : 2 * num ≤ 2 * k * den + den)
    (hodd : k % 2 = 1 → 2 * k * den < 2 * num + den ∧ 2 * num < 2 * k * den + den) :
    roundedQuotient num den = k := by
  have hnum : num = den * (num / den) + num % den := (Nat.div_add_mod num den).symm
  have hrest : num % den < den := Nat.mod_lt num hden
  rw [roundedQuotient]
  generalize num / den = quotient at *
  generalize num % den = rest at *
  have hle : quotient ≤ k := by
    by_contra hlt
    have : (k + 1) * den ≤ quotient * den := Nat.mul_le_mul_right den (by omega)
    nlinarith
  have hge : k ≤ quotient + 1 := by
    by_contra hlt
    have : (quotient + 2) * den ≤ k * den := Nat.mul_le_mul_right den (by omega)
    nlinarith
  -- rounding goes down or up, and at a half to the even number
  obtain rfl | rfl : k = quotient ∨ k = quotient + 1 := by omega
  · have hnot : ¬ (den < 2 * rest ∨ 2 * rest = den ∧ k % 2 = 1) := by
      rintro (hlt | ⟨heq, hk⟩)
      · nlinarith
      · nlinarith [(hodd hk).2]
    exact if_neg hnot
  · have hup : den < 2 * rest ∨ 2 * rest = den ∧ quotient % 2 = 1 := by
      have hle : den ≤ 2 * rest := by nlinarith
      rcases Nat.lt_or_eq_of_le hle with hlt | heq
      · exact .inl hlt
      · refine .inr ⟨heq.symm, ?_⟩
        by_contra hk
        nlinarith [(hodd (by omega)).1]
    exact if_pos hup

/-- The quotient rounds to the number that it is at most one half away from, and in the middle to
the even one. -/
lemma roundedQuotient_eq {k : Nat} (hden : 0 < den) (hlow : (k : ℚ) - 1 / 2 ≤ num / den)
    (hhigh : (num : ℚ) / den ≤ k + 1 / 2)
    (hodd : k % 2 = 1 → (k : ℚ) - 1 / 2 < num / den ∧ (num : ℚ) / den < k + 1 / 2) :
    roundedQuotient num den = k := by
  have hdenQ : (0 : ℚ) < den := by exact_mod_cast hden
  refine roundedQuotient_eq_of_mul hden ?_ ?_ fun hk => ⟨?_, ?_⟩
  · rw [le_div_iff₀ hdenQ] at hlow
    have : (2 * k * den : ℚ) ≤ 2 * num + den := by linarith
    exact_mod_cast this
  · rw [div_le_iff₀ hdenQ] at hhigh
    have : (2 * num : ℚ) ≤ 2 * k * den + den := by linarith
    exact_mod_cast this
  · have hlt := (lt_div_iff₀ hdenQ).mp (hodd hk).1
    have : (2 * k * den : ℚ) < 2 * num + den := by linarith
    exact_mod_cast this
  · have hlt := (div_lt_iff₀ hdenQ).mp (hodd hk).2
    have : (2 * num : ℚ) < 2 * k * den + den := by linarith
    exact_mod_cast this

/-! ### The scale -/

lemma two_zpow_pos (q : Int) : (0 : ℚ) < 2 ^ q := zpow_pos (by norm_num) q

lemma scaled_pos (hden : 0 < den) (q : Int) : 0 < (scaled num den q).2 := by
  rw [scaled]
  split
  · exact Nat.mul_pos hden (powerOfTwo_pos _)
  · exact hden

/-- The scaled fraction is the fraction over the power of two. -/
lemma scaled_div (num den : Nat) (q : Int) :
    ((scaled num den q).1 : ℚ) / (scaled num den q).2 = num / den / 2 ^ q := by
  rw [scaled]
  split
  · next hq => rw [zpow_of_nonneg 2 hq, Nat.cast_mul, cast_powerOfTwo, div_div]
  · next hq =>
      rw [zpow_of_neg 2 hq, div_inv_eq_mul, Nat.cast_mul, cast_powerOfTwo]
      ring

/-- The scale at which the integer part of a fraction has fifty-three digits, as it is guessed
from the sizes of the two numbers. -/
def scaleOf (num den : Nat) : Int :=
  let guess := (Nat.log2 num : Int) - Nat.log2 den - 53
  if (scaled num den guess).1 / (scaled num den guess).2 < powerOfTwo 53 then guess else guess + 1

lemma log2_bounds {n : Nat} (hn : 0 < n) :
    (2 : ℚ) ^ (Nat.log2 n : Int) ≤ n ∧ (n : ℚ) < 2 ^ ((Nat.log2 n : Int) + 1) := by
  constructor
  · rw [zpow_natCast]
    exact_mod_cast Nat.log2_self_le (by omega)
  · rw [← Nat.cast_succ, zpow_natCast]
    exact_mod_cast Nat.lt_log2_self

/-- The sizes of the two numbers give the scale up to one. -/
lemma guess_bounds (hnum : 0 < num) (hden : 0 < den) {guess : Int}
    (hguess : (Nat.log2 num : Int) - Nat.log2 den - 53 = guess) :
    (2 : ℚ) ^ (52 : Int) ≤ num / den / 2 ^ guess ∧ (num : ℚ) / den / 2 ^ guess < 2 ^ (54 : Int) := by
  obtain ⟨hnumLow, hnumHigh⟩ := log2_bounds hnum
  obtain ⟨hdenLow, hdenHigh⟩ := log2_bounds hden
  have hdenQ : (0 : ℚ) < den := by exact_mod_cast hden
  have hne : (2 : ℚ) ≠ 0 := by norm_num
  -- each number lies between two powers of two, the quotient between their quotients
  constructor
  · rw [div_div, le_div_iff₀ (mul_pos hdenQ (two_zpow_pos guess))]
    calc (2 : ℚ) ^ (52 : Int) * (den * 2 ^ guess)
        ≤ 2 ^ (52 : Int) * (2 ^ ((Nat.log2 den : Int) + 1) * 2 ^ guess) := by gcongr
      _ = 2 ^ (Nat.log2 num : Int) := by
          rw [← zpow_add₀ hne, ← zpow_add₀ hne]
          congr 1
          omega
      _ ≤ num := hnumLow
  · rw [div_div, div_lt_iff₀ (mul_pos hdenQ (two_zpow_pos guess))]
    calc (num : ℚ) < 2 ^ ((Nat.log2 num : Int) + 1) := hnumHigh
      _ = 2 ^ (54 : Int) * (2 ^ (Nat.log2 den : Int) * 2 ^ guess) := by
          rw [← zpow_add₀ hne, ← zpow_add₀ hne]
          congr 1
          omega
      _ ≤ 2 ^ (54 : Int) * (den * 2 ^ guess) := by gcongr

lemma scaled_floor_lt_iff (num : Nat) (hden : 0 < den) (q : Int) :
    (scaled num den q).1 / (scaled num den q).2 < powerOfTwo 53 ↔
      (num : ℚ) / den / 2 ^ q < 2 ^ (53 : Int) := by
  have hpos : (0 : ℚ) < (scaled num den q).2 := by exact_mod_cast scaled_pos hden q
  have hpower : (2 : ℚ) ^ (53 : Int) = (powerOfTwo 53 : ℕ) := (cast_powerOfTwo_zpow 53).symm
  rw [Nat.div_lt_iff_lt_mul (scaled_pos hden q), ← scaled_div, div_lt_iff₀ hpos, hpower,
    ← Nat.cast_mul, Nat.cast_lt]

/-- At its scale, a fraction lies between two powers of two. -/
lemma scaleOf_bounds (hnum : 0 < num) (hden : 0 < den) :
    (2 : ℚ) ^ (52 : Int) ≤ num / den / 2 ^ scaleOf num den ∧
      (num : ℚ) / den / 2 ^ scaleOf num den < 2 ^ (53 : Int) := by
  have hne : (2 : ℚ) ≠ 0 := by norm_num
  generalize hguess : (Nat.log2 num : Int) - Nat.log2 den - 53 = guess
  obtain ⟨hlow, hhigh⟩ := guess_bounds hnum hden hguess
  have hfloor := scaled_floor_lt_iff num hden guess
  rw [scaleOf, hguess]
  split
  · next h => exact ⟨hlow, hfloor.mp h⟩
  · next h =>
      have hge : (2 : ℚ) ^ (53 : Int) ≤ num / den / 2 ^ guess := not_lt.mp (hfloor.not.mp h)
      rw [zpow_add_one₀ hne, ← div_div, le_div_iff₀ two_pos, div_lt_iff₀ two_pos]
      constructor
      · rw [← zpow_add_one₀ hne]
        exact hge
      · rw [← zpow_add_one₀ hne]
        exact hhigh

/-! ### The parts of a finite double -/

/-- The bits of the magnitude. -/
def magnitude (x : Double) : Nat := x.exponentField * powerOfTwo 52 + x.fractionField

/-- The magnitude bits of `m · 2^q`. -/
def encoded (m : Nat) (q : Int) : Nat :=
  if m < powerOfTwo 52 then m else (q + 1075).toNat * powerOfTwo 52 + (m - powerOfTwo 52)

variable {x : Double}

lemma fractionField_lt (x : Double) : x.fractionField < powerOfTwo 52 :=
  Nat.mod_lt _ (powerOfTwo_pos 52)

lemma exponentField_lt (hfinite : x.isFinite = true) : x.exponentField < 2047 := by
  have hlt : x.exponentField < powerOfTwo 11 := Nat.mod_lt _ (powerOfTwo_pos 11)
  have hpower : powerOfTwo 11 = 2048 := rfl
  have hne : x.exponentField ≠ 2047 := by simpa [isFinite] using hfinite
  omega

lemma mantissa_lt (x : Double) : x.mantissa < powerOfTwo 53 := by
  have hfraction := fractionField_lt x
  have hdouble : powerOfTwo 53 = 2 * powerOfTwo 52 := rfl
  rw [mantissa]
  split <;> omega

lemma exponent_ge (x : Double) : -1074 ≤ x.exponent := by
  rw [exponent]
  split <;> omega

lemma exponent_le (hfinite : x.isFinite = true) : x.exponent ≤ 971 := by
  have := exponentField_lt hfinite
  rw [exponent]
  split <;> omega

/-- Only the smallest exponent has short mantissas. -/
lemma exponent_of_mantissa_lt (h : x.mantissa < powerOfTwo 52) : x.exponent = -1074 := by
  rw [mantissa] at h
  split at h
  · next hfield => rw [exponent, if_pos hfield]
  · omega

lemma magnitude_eq_encoded (x : Double) : x.magnitude = encoded x.mantissa x.exponent := by
  have hfraction := fractionField_lt x
  rw [magnitude, encoded, mantissa, exponent]
  by_cases hfield : x.exponentField = 0
  · simp only [hfield, if_true, hfraction]
    omega
  · have hnot : ¬ powerOfTwo 52 + x.fractionField < powerOfTwo 52 := by omega
    have hfieldInt : ((x.exponentField : Int) - 1075 + 1075).toNat = x.exponentField := by omega
    simp only [if_neg hfield, if_neg hnot, hfieldInt]
    omega

lemma magnitude_lt (hfinite : x.isFinite = true) : x.magnitude < infinityBits := by
  have hfield := exponentField_lt hfinite
  have hfraction := fractionField_lt x
  rw [magnitude, infinityBits]
  calc x.exponentField * powerOfTwo 52 + x.fractionField
      < x.exponentField * powerOfTwo 52 + powerOfTwo 52 := by omega
    _ = (x.exponentField + 1) * powerOfTwo 52 := by ring
    _ ≤ 2047 * powerOfTwo 52 := Nat.mul_le_mul_right _ hfield

/-- A mantissa that has become too long by one is a short one at the next exponent. -/
lemma encoded_carry {q : Int} (hq : -1074 ≤ q) :
    encoded (powerOfTwo 53) q = encoded (powerOfTwo 52) (q + 1) := by
  have hdouble : powerOfTwo 53 = 2 * powerOfTwo 52 := rfl
  have hnot : ¬ powerOfTwo 53 < powerOfTwo 52 := by
    have := powerOfTwo_pos 52
    omega
  have hnext : (q + 1 + 1075).toNat = (q + 1075).toNat + 1 := by omega
  rw [encoded, encoded, if_neg hnot, if_neg (lt_irrefl _), hnext, hdouble, Nat.sub_self,
    Nat.add_mul]
  omega

/-! ### Rounding to a double -/

/-- How far below a double a number may lie to be rounded to it, in units of its last place: less
far if the double below has a smaller exponent. -/
def reachBelow (x : Double) : ℚ := if x.fractionField = 0 ∧ 1 < x.exponentField then 1 / 4 else 1 / 2

/-- A positive number rounds to the magnitude of the double. -/
structure RoundsTo (x : Double) (v : ℚ) : Prop where
  low : x.mantissa - x.reachBelow ≤ v / 2 ^ x.exponent
  high : v / 2 ^ x.exponent ≤ x.mantissa + 1 / 2
  odd : x.mantissa % 2 = 1 →
    x.mantissa - x.reachBelow < v / 2 ^ x.exponent ∧ v / 2 ^ x.exponent < x.mantissa + 1 / 2

lemma nearestBits_eq (num den : Nat) :
    nearestBits num den =
      min (encoded (roundedQuotient (scaled num den (max (scaleOf num den) (-1074))).1
        (scaled num den (max (scaleOf num den) (-1074))).2) (max (scaleOf num den) (-1074)))
        infinityBits := rfl

lemma reachBelow_le (x : Double) : x.reachBelow ≤ 1 / 2 := by
  rw [reachBelow]
  split <;> norm_num

/-- A number that is long at one scale and not too long at another has the smaller one. -/
lemma scale_le {v : ℚ} {a b : Int} (ha : (2 : ℚ) ^ (52 : Int) ≤ v / 2 ^ a)
    (hb : v / 2 ^ b < 2 ^ (53 : Int)) : a ≤ b := by
  have hne : (2 : ℚ) ≠ 0 := by norm_num
  rw [le_div_iff₀ (two_zpow_pos a), ← zpow_add₀ hne] at ha
  rw [div_lt_iff₀ (two_zpow_pos b), ← zpow_add₀ hne] at hb
  have hlt : 52 + a < 53 + b := (zpow_lt_zpow_iff_right₀ one_lt_two).mp (ha.trans_lt hb)
  omega

lemma RoundsTo.lt {v : ℚ} (h : x.RoundsTo v) : v / 2 ^ x.exponent < 2 ^ (53 : Int) := by
  have hmantissa : (x.mantissa : ℚ) + 1 ≤ 2 ^ (53 : Int) := by
    exact_mod_cast (mantissa_lt x : x.mantissa + 1 ≤ powerOfTwo 53)
  linarith [h.high]

/-- If a number lies below all long mantissas of the exponent and rounds to one of them, then it
rounds to the first of them, and not far below it. -/
lemma RoundsTo.first {v : ℚ} (h : x.RoundsTo v) (hexponent : x.exponent ≠ -1074)
    (hshort : v / 2 ^ x.exponent < 2 ^ (52 : Int)) :
    x.mantissa = powerOfTwo 52 ∧ x.reachBelow = 1 / 4 := by
  have hmin := exponent_ge x
  have hmantissa : powerOfTwo 52 ≤ x.mantissa := by
    by_contra hlt
    exact hexponent (exponent_of_mantissa_lt (not_le.mp hlt))
  have hcast : (2 : ℚ) ^ (52 : Int) = (powerOfTwo 52 : ℕ) := (cast_powerOfTwo_zpow 52).symm
  -- less than one above the least long mantissa there is only this one
  have hlt : (x.mantissa : ℚ) < (powerOfTwo 52 + 1 : ℕ) := by
    rw [Nat.cast_succ, ← hcast]
    linarith [h.low, reachBelow_le x]
  have hltNat : x.mantissa < powerOfTwo 52 + 1 := by exact_mod_cast hlt
  have hpower : x.mantissa = powerOfTwo 52 := by omega
  have hfield : 1 < x.exponentField := by
    rw [exponent] at hexponent hmin
    split at hexponent
    · exact absurd rfl hexponent
    · omega
  have hfraction : x.fractionField = 0 := by
    rw [mantissa, if_neg (by omega)] at hpower
    omega
  exact ⟨hpower, by rw [reachBelow, if_pos ⟨hfraction, hfield⟩]⟩

/-- The scale of a number that rounds to a double is the exponent of the double, or the one below
if the number is just below a power of two. -/
lemma RoundsTo.scale {v : ℚ} (h : x.RoundsTo v) {e : Int} (hlow : (2 : ℚ) ^ (52 : Int) ≤ v / 2 ^ e)
    (hhigh : v / 2 ^ e < 2 ^ (53 : Int)) :
    max e (-1074) = x.exponent ∨
      max e (-1074) + 1 = x.exponent ∧ x.mantissa = powerOfTwo 52 ∧
        (2 : ℚ) ^ (53 : Int) - 1 / 2 ≤ v / 2 ^ max e (-1074) ∧
        v / 2 ^ max e (-1074) < 2 ^ (53 : Int) := by
  have hle : e ≤ x.exponent := scale_le hlow h.lt
  have hmin := exponent_ge x
  by_cases hlong : (2 : ℚ) ^ (52 : Int) ≤ v / 2 ^ x.exponent
  · have hge : x.exponent ≤ e := scale_le hlong hhigh
    exact .inl (by omega)
  by_cases hq : x.exponent = -1074
  · exact .inl (by omega)
  right
  -- the number is shorter at this scale, which happens just below a power of two only
  have hshort : v / 2 ^ x.exponent < 2 ^ (52 : Int) := not_le.mp hlong
  obtain ⟨hpower, hreach⟩ := h.first hq hshort
  have hhalf : v / 2 ^ (x.exponent - 1) = v / 2 ^ x.exponent * 2 := by
    rw [zpow_sub_one₀ two_ne_zero]
    field_simp
  have hbelow : (2 : ℚ) ^ (53 : Int) - 1 / 2 ≤ v / 2 ^ (x.exponent - 1) := by
    have hlow := h.low
    rw [hpower, hreach, cast_powerOfTwo] at hlow
    rw [hhalf]
    norm_num at hlow ⊢
    linarith
  have habove : v / 2 ^ (x.exponent - 1) < 2 ^ (53 : Int) := by
    rw [hhalf]
    norm_num at hshort ⊢
    linarith
  have hge : x.exponent - 1 ≤ e := scale_le (le_trans (by norm_num) hbelow) hhigh
  have hlt : e ≤ x.exponent - 1 := scale_le hlow habove
  have hmax : max e (-1074) = x.exponent - 1 := by omega
  rw [hmax]
  exact ⟨by omega, hpower, hbelow, habove⟩

/-- **Nearest doubles**. What rounds to a double is read as the bits of its magnitude, whatever
fraction is written for it. -/
theorem nearestBits_of_roundsTo (hfinite : x.isFinite = true) (hnum : 0 < num) (hden : 0 < den)
    (h : x.RoundsTo (num / den)) : nearestBits num den = x.magnitude := by
  obtain ⟨hlow, hhigh⟩ := scaleOf_bounds hnum hden
  rw [nearestBits_eq]
  generalize hq : max (scaleOf num den) (-1074) = q
  have hpos : 0 < (scaled num den q).2 := scaled_pos hden q
  have hbits : encoded (roundedQuotient (scaled num den q).1 (scaled num den q).2) q =
      x.magnitude := by
    rcases h.scale hlow hhigh with hexponent | ⟨hexponent, hpower, hbelow, habove⟩
    -- at the scale of the double the quotient rounds to its mantissa
    · rw [hq] at hexponent
      have hround : roundedQuotient (scaled num den q).1 (scaled num den q).2 = x.mantissa := by
        refine roundedQuotient_eq hpos ?_ ?_ fun hodd => ?_
        · rw [scaled_div, hexponent]
          linarith [h.low, reachBelow_le x]
        · rw [scaled_div, hexponent]
          exact h.high
        · rw [scaled_div, hexponent]
          obtain ⟨hodd, hodd'⟩ := h.odd hodd
          exact ⟨by linarith [reachBelow_le x], hodd'⟩
      rw [hround, hexponent, magnitude_eq_encoded]
    -- at the scale below it rounds up to a power of two, which carries into the exponent
    · rw [hq] at hexponent hbelow habove
      have hcast : (2 : ℚ) ^ (53 : Int) = (powerOfTwo 53 : ℕ) := (cast_powerOfTwo_zpow 53).symm
      rw [hcast] at hbelow habove
      have hround : roundedQuotient (scaled num den q).1 (scaled num den q).2 = powerOfTwo 53 := by
        refine roundedQuotient_eq hpos ?_ ?_ fun hodd => absurd hodd (by decide)
        · rw [scaled_div]
          exact hbelow
        · rw [scaled_div]
          linarith
      have hmin : -1074 ≤ q := by omega
      rw [hround, encoded_carry hmin, hexponent, magnitude_eq_encoded, hpower]
  rw [hbits, min_eq_left (magnitude_lt hfinite).le]

end Double

end HotReload
