import Mathlib.Algebra.Order.Group.Abs
import HotReload.Proofs.Doubles.Nearest
import HotReload.Proofs.Numerals
/-!
The shortest decimal of a double.

* `Double.holds_interval_iff`: the interval of a double holds what rounds to it.
* `Double.Interval.place_bounds`: where the first digit of a number stands.
* `Double.roundsTo_shortest`: with seventeen digits there is always a decimal that rounds to the
  double, so that the shortest one is found.
* `Double.ofDecimal_of_roundsTo`: a decimal that rounds to a double is read as it.
-/

namespace HotReload

namespace Double

lemma ten_zpow_pos (p : Int) : (0 : ℚ) < 10 ^ p := zpow_pos (by norm_num) p

/-! ### The interval -/

/-- The value of a decimal, with all its digits on one side of the point. -/
lemma decimal_value (c : Nat) (p : Int) :
    (c : ℚ) * 10 ^ p = (if 0 ≤ p then c * powerOfTen p.toNat else c : ℕ) /
      (if 0 ≤ p then 1 else powerOfTen (-p).toNat : ℕ) := by
  split
  · next hp => rw [zpow_of_nonneg 10 hp, Nat.cast_mul, cast_powerOfTen, Nat.cast_one, div_one]
  · next hp => rw [zpow_of_neg 10 hp, cast_powerOfTen, div_eq_mul_inv]

/-- A decimal lies in an interval if it lies between the ends, or on them where they belong to
it. -/
lemma Interval.holds_iff {i : Interval} (hden : 0 < i.den) (c : Nat) (p : Int) :
    i.holds c p = true ↔
      if i.closed then (i.low : ℚ) / i.den ≤ c * 10 ^ p ∧ c * 10 ^ p ≤ (i.high : ℚ) / i.den
      else (i.low : ℚ) / i.den < c * 10 ^ p ∧ c * 10 ^ p < (i.high : ℚ) / i.den := by
  have hdenQ : (0 : ℚ) < i.den := by exact_mod_cast hden
  rw [Interval.holds, decimal_value]
  generalize hwhole : (if 0 ≤ p then c * powerOfTen p.toNat else c) = whole
  generalize hunit : (if 0 ≤ p then 1 else powerOfTen (-p).toNat) = unit
  have hunitPos : 0 < unit := by
    rw [← hunit]
    split
    · exact Nat.one_pos
    · exact powerOfTen_pos _
  have hunitQ : (0 : ℚ) < unit := by exact_mod_cast hunitPos
  have hhere : (if 0 ≤ p then c * powerOfTen p.toNat * i.den else c * i.den) = whole * i.den := by
    rw [← hwhole]
    split <;> rfl
  -- both sides are fractions: they are compared crosswise, as the program does
  rw [hhere, div_le_div_iff₀ hdenQ hunitQ, div_le_div_iff₀ hunitQ hdenQ,
    div_lt_div_iff₀ hdenQ hunitQ, div_lt_div_iff₀ hunitQ hdenQ]
  norm_cast
  cases i.closed <;> simp

variable {x : Double}

/-- The value of the magnitude. -/
def value (x : Double) : ℚ := x.mantissa * 2 ^ x.exponent

lemma value_div (x : Double) : x.value / 2 ^ x.exponent = x.mantissa := by
  rw [value, mul_div_cancel_right₀ _ (two_zpow_pos x.exponent).ne']

lemma interval_den_pos (x : Double) : 0 < x.interval.den := by
  rw [interval]
  dsimp only
  split
  · exact Nat.one_pos
  · exact powerOfTwo_pos _

/-- The interval counts in quarters of the last place. -/
lemma interval_div (x : Double) (k : Nat) :
    ((k * (if 0 ≤ x.exponent - 2 then powerOfTwo (x.exponent - 2).toNat else 1) : ℕ) : ℚ) /
      x.interval.den = k / 4 * 2 ^ x.exponent := by
  have hexponent : (2 : ℚ) ^ x.exponent = 2 ^ (x.exponent - 2) * 4 := by
    rw [zpow_sub₀ two_ne_zero]
    norm_num
  rw [hexponent, interval]
  dsimp only
  generalize x.exponent - 2 = q
  split
  · next hq =>
      rw [zpow_of_nonneg 2 hq, Nat.cast_mul, cast_powerOfTwo, Nat.cast_one]
      ring
  · next hq =>
      rw [zpow_of_neg 2 hq, Nat.mul_one, cast_powerOfTwo]
      ring

lemma interval_value (x : Double) : (x.interval.value : ℚ) / x.interval.den = x.value := by
  have hvalue : x.interval.value = 4 * x.mantissa *
      (if 0 ≤ x.exponent - 2 then powerOfTwo (x.exponent - 2).toNat else 1) := rfl
  rw [hvalue, interval_div, value]
  push_cast
  ring

lemma interval_high (x : Double) :
    (x.interval.high : ℚ) / x.interval.den = (x.mantissa + 1 / 2) * 2 ^ x.exponent := by
  have hhigh : x.interval.high = (4 * x.mantissa + 2) *
      (if 0 ≤ x.exponent - 2 then powerOfTwo (x.exponent - 2).toNat else 1) := rfl
  rw [hhigh, interval_div]
  push_cast
  ring

lemma interval_low (hmantissa : x.mantissa ≠ 0) :
    (x.interval.low : ℚ) / x.interval.den = (x.mantissa - x.reachBelow) * 2 ^ x.exponent := by
  have hlow : x.interval.low =
      (4 * x.mantissa - if x.fractionField = 0 ∧ 1 < x.exponentField then 1 else 2) *
        (if 0 ≤ x.exponent - 2 then powerOfTwo (x.exponent - 2).toNat else 1) := rfl
  rw [hlow, interval_div, reachBelow]
  split
  · rw [Nat.cast_sub (by omega)]
    push_cast
    ring
  · rw [Nat.cast_sub (by omega)]
    push_cast
    ring

/-- The interval of a double holds the decimals that round to it. -/
theorem holds_interval_iff (hmantissa : x.mantissa ≠ 0) (c : Nat) (p : Int) :
    x.interval.holds c p = true ↔ x.RoundsTo (c * 10 ^ p) := by
  have hpos := two_zpow_pos x.exponent
  have hclosed : x.interval.closed = (x.mantissa % 2 == 0) := rfl
  rw [Interval.holds_iff (interval_den_pos x), interval_low hmantissa, interval_high, hclosed,
    ← le_div_iff₀ hpos, ← div_le_iff₀ hpos, ← lt_div_iff₀ hpos, ← div_lt_iff₀ hpos]
  by_cases heven : x.mantissa % 2 = 0
  · rw [if_pos (beq_iff_eq.mpr heven)]
    exact ⟨fun h => ⟨h.1, h.2, fun hodd => absurd hodd (by omega)⟩, fun h => ⟨h.low, h.high⟩⟩
  · rw [if_neg (beq_iff_eq.not.mpr heven)]
    exact ⟨fun h => ⟨h.1.le, h.2.le, fun _ => h⟩, fun h => h.odd (by omega)⟩

/-! ### The first digit -/

/-- The zeros behind the point of a fraction below one. -/
lemma leadingZeros_bounds {num den : Nat} (fuel : Nat) (hlt : num < den)
    (hfuel : den ≤ num * 10 ^ fuel) :
    num * 10 ^ leadingZeros num den fuel < den ∧
      den ≤ num * 10 ^ (leadingZeros num den fuel + 1) := by
  induction fuel generalizing num with
  | zero => omega
  | succ fuel ih =>
      rw [leadingZeros]
      split
      · next hle => exact ⟨by simpa using hlt, by simpa using hle⟩
      · next hle =>
          have hmore := ih (not_le.mp hle) (by rwa [mul_assoc, ← pow_succ'])
          rwa [mul_assoc, mul_assoc, ← pow_succ', ← pow_succ'] at hmore

lemma decimal_length_pos (n : Nat) : 0 < (decimal n).length := by
  rw [decimal, numeral_eq_map_bigDigits (by decide), List.length_map]
  exact List.length_pos_of_ne_nil (bigDigits_ne_nil n)

/-- A number lies between two powers of ten that go by the length of its decimal. -/
lemma decimal_bounds {n : Nat} (hn : n ≠ 0) :
    10 ^ ((decimal n).length - 1) ≤ n ∧ n < 10 ^ (decimal n).length := by
  have hpos := decimal_length_pos n
  have hiff {k : Nat} (hk : k ≠ 0) : (decimal n).length ≤ k ↔ n < 10 ^ k :=
    length_numeral_le_iff (by decide) hk
  refine ⟨?_, (hiff hpos.ne').mp le_rfl⟩
  by_cases hone : (decimal n).length = 1
  · rw [hone]
    exact Nat.one_le_iff_ne_zero.mpr hn
  · by_contra hlt
    have hle := (hiff (by omega)).mpr (not_le.mp hlt)
    omega

/-- The first digit of a number stands just before its place. -/
lemma Interval.place_bounds {i : Interval} (hden : 0 < i.den)
    (hsmall : i.den ≤ i.value * 10 ^ 400) :
    (10 : ℚ) ^ (i.place - 1) ≤ i.value / i.den ∧ (i.value : ℚ) / i.den < 10 ^ i.place := by
  have hdenQ : (0 : ℚ) < i.den := by exact_mod_cast hden
  rw [Interval.place, le_div_iff₀ hdenQ, div_lt_iff₀ hdenQ]
  -- from one on the digits of the whole part are counted, below it the zeros behind the point
  split
  · next hle =>
      have hquotient : i.value / i.den ≠ 0 := (Nat.div_pos hle hden).ne'
      obtain ⟨hlow, hhigh⟩ := decimal_bounds hquotient
      have hlength := decimal_length_pos (i.value / i.den)
      generalize (decimal (i.value / i.den)).length = k at *
      have hpred : ((k : Int) - 1) = ((k - 1 : ℕ) : Int) := by omega
      constructor
      · rw [hpred, zpow_natCast]
        exact_mod_cast (Nat.le_div_iff_mul_le hden).mp hlow
      · rw [zpow_natCast]
        exact_mod_cast (Nat.div_lt_iff_lt_mul hden).mp hhigh
  · next hlt =>
      obtain ⟨hlow, hhigh⟩ := leadingZeros_bounds 400 (not_le.mp hlt) hsmall
      generalize leadingZeros i.value i.den 400 = zeros at *
      have hpred : -(zeros : Int) - 1 = -((zeros + 1 : ℕ) : Int) := by omega
      constructor
      · rw [hpred, zpow_neg, zpow_natCast, inv_mul_le_iff₀ (by positivity), mul_comm]
        exact_mod_cast hhigh
      · rw [zpow_neg, zpow_natCast, lt_inv_mul_iff₀ (by positivity), mul_comm]
        exact_mod_cast hlow

/-- The interval of a double is fine enough for its first digit to be found. -/
lemma interval_den_le (hmantissa : x.mantissa ≠ 0) :
    x.interval.den ≤ x.interval.value * 10 ^ 400 := by
  have hvalue : 0 < x.interval.value := by
    have hscale : 0 < (if 0 ≤ x.exponent - 2 then powerOfTwo (x.exponent - 2).toNat else 1) := by
      split
      · exact powerOfTwo_pos _
      · exact Nat.one_pos
    exact Nat.mul_pos (by omega) hscale
  have hden : x.interval.den ≤ 10 ^ 400 := by
    have hexponent := exponent_ge x
    have hone (n : Nat) : 1 ≤ 10 ^ n := Nat.one_le_pow n 10 (by decide)
    -- a power of two is below the power of ten with a third of its exponent
    have hpower (n : Nat) : 2 ^ (3 * n) ≤ 10 ^ n := by
      rw [pow_mul]
      exact Nat.pow_le_pow_left (by decide) n
    rw [interval]
    dsimp only
    split
    · exact hone 400
    · calc powerOfTwo (-(x.exponent - 2)).toNat
          ≤ 2 ^ (3 * 400) := Nat.pow_le_pow_right (by decide) (by omega)
        _ ≤ 10 ^ 400 := hpower 400
  calc x.interval.den ≤ 1 * 10 ^ 400 := by rwa [one_mul]
    _ ≤ x.interval.value * 10 ^ 400 := Nat.mul_le_mul_right _ hvalue

lemma place_bounds (hmantissa : x.mantissa ≠ 0) :
    (10 : ℚ) ^ (x.interval.place - 1) ≤ x.value ∧ x.value < 10 ^ x.interval.place := by
  rw [← interval_value]
  exact Interval.place_bounds (interval_den_pos x) (interval_den_le hmantissa)

/-! ### Seventeen digits -/

/-- The rounded quotient is at most one half away. -/
lemma roundedQuotient_bounds (num : Nat) {den : Nat} (hden : 0 < den) :
    (num : ℚ) / den - 1 / 2 ≤ roundedQuotient num den ∧
      (roundedQuotient num den : ℚ) ≤ num / den + 1 / 2 := by
  have hdenQ : (0 : ℚ) < den := by exact_mod_cast hden
  have hnum : den * (num / den) + num % den = num := Nat.div_add_mod num den
  have hrest : num % den < den := Nat.mod_lt num hden
  rw [sub_le_iff_le_add, div_le_iff₀ hdenQ, ← sub_le_iff_le_add, le_div_iff₀ hdenQ, roundedQuotient]
  generalize num / den = quotient at *
  generalize num % den = rest at *
  subst hnum
  push_cast
  -- rounding up, the rest is half of the denominator or more; rounding down, half or less
  split
  · next hup =>
      have hle : (den : ℚ) ≤ 2 * rest := by
        have : den ≤ 2 * rest := by omega
        exact_mod_cast this
      have hlt : (rest : ℚ) ≤ den := by exact_mod_cast hrest.le
      constructor <;> linarith
  · next hdown =>
      have hle : (2 * rest : ℚ) ≤ den := by
        have : 2 * rest ≤ den := by omega
        exact_mod_cast this
      have hrestQ : (0 : ℚ) ≤ rest := Nat.cast_nonneg rest
      constructor <;> linarith

/-- What is closer to a double than one digit in seventeen rounds to it. -/
lemma roundsTo_of_close (hmantissa : x.mantissa ≠ 0) {v : ℚ}
    (h : |v - x.value| * (2 * 10 ^ 16) ≤ x.value) : x.RoundsTo v := by
  have hpos := two_zpow_pos x.exponent
  have hdiff : v / 2 ^ x.exponent - x.mantissa = (v - x.value) / 2 ^ x.exponent := by
    rw [sub_div, value_div]
  have hclose : |v / 2 ^ x.exponent - x.mantissa| * (2 * 10 ^ 16) ≤ x.mantissa := by
    rw [hdiff, abs_div, abs_of_pos hpos, div_mul_eq_mul_div, div_le_iff₀ hpos]
    exact h
  have hmantissaQ : (0 : ℚ) < x.mantissa := by exact_mod_cast Nat.pos_of_ne_zero hmantissa
  have hlt : (x.mantissa : ℚ) < 9007199254740992 := by
    exact_mod_cast (mantissa_lt x : x.mantissa < 9007199254740992)
  -- the mantissa is less than half of the factor, so that the distance is less than one half
  have hhalf : |v / 2 ^ x.exponent - x.mantissa| < 1 / 2 := by
    linarith
  have hreach : |v / 2 ^ x.exponent - x.mantissa| < x.reachBelow := by
    rw [reachBelow]
    split
    · next hpower =>
        have hmantissa : (x.mantissa : ℚ) = 4503599627370496 := by
          rw [mantissa, if_neg (by omega), hpower.1, Nat.add_zero, cast_powerOfTwo]
          norm_num
        linarith
    · exact hhalf
  have hlow := neg_lt_of_abs_lt hreach
  have hhigh := lt_of_abs_lt hhalf
  have hinside : x.mantissa - x.reachBelow < v / 2 ^ x.exponent ∧
      v / 2 ^ x.exponent < x.mantissa + 1 / 2 := ⟨by linarith, by linarith⟩
  exact ⟨hinside.1.le, hinside.2.le, fun _ => hinside⟩

/-- The grid of a decimal place, as a fraction of the value. -/
lemma grid_div (i : Interval) (p : Int) :
    ((if 0 ≤ p then i.value else i.value * powerOfTen (-p).toNat : ℕ) : ℚ) /
      (if 0 ≤ p then i.den * powerOfTen p.toNat else i.den : ℕ) = i.value / i.den / 10 ^ p := by
  split
  · next hp => rw [zpow_of_nonneg 10 hp, Nat.cast_mul, cast_powerOfTen, div_div]
  · next hp =>
      rw [zpow_of_neg 10 hp, div_inv_eq_mul, Nat.cast_mul, cast_powerOfTen]
      ring

/-- The multiple of a power of ten that is next to the value. -/
def Interval.nearest (i : Interval) (p : Int) : Nat :=
  roundedQuotient (if 0 ≤ p then i.value else i.value * powerOfTen (-p).toNat)
    (if 0 ≤ p then i.den * powerOfTen p.toNat else i.den)

lemma Interval.nearest_bounds {i : Interval} (hden : 0 < i.den) (p : Int) :
    |i.nearest p * 10 ^ p - (i.value / i.den : ℚ)| * 2 ≤ 10 ^ p := by
  have hpos := ten_zpow_pos p
  have hgrid : 0 < (if 0 ≤ p then i.den * powerOfTen p.toNat else i.den) := by
    split
    · exact Nat.mul_pos hden (powerOfTen_pos _)
    · exact hden
  have hbounds := roundedQuotient_bounds
    (if 0 ≤ p then i.value else i.value * powerOfTen (-p).toNat) hgrid
  rw [grid_div, ← Interval.nearest] at hbounds
  obtain ⟨hlow, hhigh⟩ := hbounds
  generalize (i.value : ℚ) / i.den = v at *
  have hlow' : v - 10 ^ p / 2 ≤ i.nearest p * 10 ^ p := by
    have := mul_le_mul_of_nonneg_right hlow hpos.le
    rw [sub_mul, div_mul_cancel₀ _ hpos.ne'] at this
    linarith
  have hhigh' : i.nearest p * 10 ^ p ≤ v + 10 ^ p / 2 := by
    have := mul_le_mul_of_nonneg_right hhigh hpos.le
    rw [add_mul, div_mul_cancel₀ _ hpos.ne'] at this
    linarith
  have habs : |i.nearest p * 10 ^ p - v| ≤ 10 ^ p / 2 := abs_le.mpr ⟨by linarith, by linarith⟩
  linarith

lemma onGrid?_eq (i : Interval) (p : Int) :
    ∃ other, i.onGrid? p = [i.nearest p, other].find? fun c => i.holds c p := by
  rw [Interval.onGrid?, Interval.nearest, roundedQuotient]
  generalize (if 0 ≤ p then i.value else i.value * powerOfTen (-p).toNat) = num
  generalize (if 0 ≤ p then i.den * powerOfTen p.toNat else i.den) = den
  by_cases hup : den < 2 * (num % den) ∨ 2 * (num % den) = den ∧ num / den % 2 = 1
  · exact ⟨num / den, by simp only [if_pos hup]⟩
  · exact ⟨num / den + 1, by simp only [if_neg hup]⟩

lemma holds_of_onGrid? {i : Interval} {p : Int} {c : Nat} (h : i.onGrid? p = some c) :
    i.holds c p = true := by
  obtain ⟨other, hother⟩ := onGrid?_eq i p
  rw [hother] at h
  exact List.find?_some (p := fun c => i.holds c p) h

/-- With seventeen digits, the nearest decimal rounds to the double. -/
lemma exists_onGrid? (hmantissa : x.mantissa ≠ 0) :
    ∃ c, x.interval.onGrid? (x.interval.place - 17) = some c := by
  obtain ⟨hplace, -⟩ := place_bounds hmantissa
  have hten : (10 : ℚ) ≠ 0 := by norm_num
  have hscale : (10 : ℚ) ^ (x.interval.place - 17) * 10 ^ 16 = 10 ^ (x.interval.place - 1) := by
    rw [← zpow_natCast, ← zpow_add₀ hten]
    congr 1
    omega
  have hnear := Interval.nearest_bounds (interval_den_pos x) (x.interval.place - 17)
  rw [interval_value] at hnear
  -- half a unit of the seventeenth digit is close enough
  have hclose : |x.interval.nearest (x.interval.place - 17) * 10 ^ (x.interval.place - 17) -
      x.value| * (2 * 10 ^ 16) ≤ x.value := by
    calc |x.interval.nearest (x.interval.place - 17) * 10 ^ (x.interval.place - 17) -
          x.value| * (2 * 10 ^ 16)
        = |x.interval.nearest (x.interval.place - 17) * 10 ^ (x.interval.place - 17) -
          x.value| * 2 * 10 ^ 16 := by ring
      _ ≤ 10 ^ (x.interval.place - 17) * 10 ^ 16 := by gcongr
      _ ≤ x.value := hscale.le.trans hplace
  have hholds := (holds_interval_iff hmantissa _ _).mpr (roundsTo_of_close hmantissa hclose)
  obtain ⟨other, hother⟩ := onGrid?_eq x.interval (x.interval.place - 17)
  exact ⟨_, by rw [hother, List.find?_cons_of_pos (p := fun c => x.interval.holds c _) hholds]⟩

/-! ### The search -/

/-- If some grid within reach meets the interval, the search finds a decimal in it. -/
lemma search_holds {i : Interval} {place : Int} {fuel digits more : Nat} (hlt : more < fuel)
    (h : ∃ c, i.onGrid? (place - (digits + more : ℕ)) = some c) :
    i.holds (i.search place digits fuel).1 (i.search place digits fuel).2 = true := by
  induction fuel generalizing digits more with
  | zero => omega
  | succ fuel ih =>
      rw [Interval.search]
      cases hgrid : i.onGrid? (place - digits) with
      | some c => exact holds_of_onGrid? hgrid
      | none =>
          cases more with
          | zero =>
              obtain ⟨c, hc⟩ := h
              rw [Nat.add_zero, hgrid] at hc
              exact absurd hc (by simp)
          | succ more =>
              have hsum : digits + (more + 1) = digits + 1 + more := by omega
              exact ih (by omega) (hsum ▸ h)

/-- Zeros at the end of a decimal do not change its value. -/
lemma withoutZeros_value (m : Nat) (e : Int) (fuel : Nat) :
    ((withoutZeros m e fuel).1 : ℚ) * 10 ^ (withoutZeros m e fuel).2 = m * 10 ^ e := by
  have hten : (10 : ℚ) ≠ 0 := by norm_num
  induction fuel generalizing m e with
  | zero => rw [withoutZeros]
  | succ fuel ih =>
      rw [withoutZeros]
      split
      · next hzero =>
          obtain ⟨k, rfl⟩ := Nat.dvd_of_mod_eq_zero hzero.1
          rw [ih, Nat.mul_div_cancel_left _ (by decide), zpow_add_one₀ hten]
          push_cast
          ring
      · rfl

lemma RoundsTo.pos (hmantissa : x.mantissa ≠ 0) {v : ℚ} (h : x.RoundsTo v) : 0 < v := by
  have hone : (1 : ℚ) ≤ x.mantissa := by exact_mod_cast Nat.one_le_iff_ne_zero.mpr hmantissa
  have hpos : 0 < v / 2 ^ x.exponent := by linarith [h.low, reachBelow_le x]
  exact (div_pos_iff_of_pos_right (two_zpow_pos x.exponent)).mp hpos

/-- **Shortest decimals**. The decimal that is found for a double rounds to it. -/
theorem roundsTo_shortest (hmantissa : x.mantissa ≠ 0) :
    x.RoundsTo (x.shortest.1 * 10 ^ x.shortest.2) := by
  have hfound : x.interval.holds (x.interval.search x.interval.place 1 17).1
      (x.interval.search x.interval.place 1 17).2 = true :=
    search_holds (by decide : 16 < 17) (exists_onGrid? hmantissa)
  rw [shortest]
  dsimp only
  rw [withoutZeros_value]
  exact (holds_interval_iff hmantissa _ _).mp hfound

lemma shortest_ne_zero (hmantissa : x.mantissa ≠ 0) : x.shortest.1 ≠ 0 := by
  intro hzero
  have hpos := (roundsTo_shortest hmantissa).pos hmantissa
  rw [hzero, Nat.cast_zero, zero_mul] at hpos
  exact absurd hpos (lt_irrefl 0)

/-! ### Reading decimals -/

/-- A power of two below a power of ten stays below it when both are taken `n` times. -/
lemma two_zpow_le_ten_zpow {a b : Nat} (h : 2 ^ a ≤ 10 ^ b) (n : Nat) :
    (2 : ℚ) ^ ((a * n : ℕ) : Int) ≤ 10 ^ ((b * n : ℕ) : Int) := by
  have hpower : (2 ^ a) ^ n ≤ (10 ^ b) ^ n := Nat.pow_le_pow_left h n
  rw [← pow_mul, ← pow_mul] at hpower
  rw [zpow_natCast, zpow_natCast]
  exact_mod_cast hpower

/-- What rounds to a double lies between the least and the greatest of them. -/
lemma RoundsTo.bounds (hfinite : x.isFinite = true) (hmantissa : x.mantissa ≠ 0) {v : ℚ}
    (h : x.RoundsTo v) : (2 : ℚ) ^ (-1075 : Int) ≤ v ∧ v < 2 ^ (1024 : Int) := by
  have hone : (1 : ℚ) ≤ x.mantissa := by exact_mod_cast Nat.one_le_iff_ne_zero.mpr hmantissa
  have hpos := two_zpow_pos x.exponent
  have hmin := exponent_ge x
  have hmax := exponent_le hfinite
  constructor
  · calc (2 : ℚ) ^ (-1075 : Int) ≤ 2 ^ (x.exponent - 1) :=
          zpow_le_zpow_right₀ (by norm_num) (by omega)
      _ = 1 / 2 * 2 ^ x.exponent := by
          rw [zpow_sub_one₀ two_ne_zero]
          ring
      _ ≤ v := by
          rw [← le_div_iff₀ hpos]
          linarith [h.low, reachBelow_le x]
  · calc v < 2 ^ (53 : Int) * 2 ^ x.exponent := (div_lt_iff₀ hpos).mp h.lt
      _ = 2 ^ (53 + x.exponent) := (zpow_add₀ two_ne_zero _ _).symm
      _ ≤ 2 ^ (1024 : Int) := zpow_le_zpow_right₀ (by norm_num) (by omega)

/-- A decimal that rounds to a double has a size that is looked at. -/
lemma size_bounds (hfinite : x.isFinite = true) (hmantissa : x.mantissa ≠ 0) {m : Nat} {e : Int}
    (hm : m ≠ 0) (h : x.RoundsTo (m * 10 ^ e)) :
    -330 ≤ ((decimal m).length : Int) + e ∧ ((decimal m).length : Int) + e ≤ 310 := by
  have hten : (10 : ℚ) ≠ 0 := by norm_num
  obtain ⟨hleast, hgreatest⟩ := h.bounds hfinite hmantissa
  obtain ⟨hlow, hhigh⟩ := decimal_bounds hm
  have hlength := decimal_length_pos m
  generalize (decimal m).length = k at *
  constructor
  · by_contra hlt
    have hhighQ : (m : ℚ) < 10 ^ k := by exact_mod_cast hhigh
    -- below the least size the decimal would be smaller than half of the least double
    have hvalue : (m : ℚ) * 10 ^ e < 2 ^ (-1075 : Int) := by
      calc (m : ℚ) * 10 ^ e < 10 ^ k * 10 ^ e := mul_lt_mul_of_pos_right hhighQ (ten_zpow_pos e)
        _ = 10 ^ ((k : Int) + e) := by rw [zpow_add₀ hten, zpow_natCast]
        _ ≤ 10 ^ (-330 : Int) := zpow_le_zpow_right₀ (by norm_num) (by omega)
        _ ≤ 2 ^ (-1089 : Int) := by
            rw [zpow_neg, zpow_neg]
            exact inv_anti₀ (two_zpow_pos _)
              (two_zpow_le_ten_zpow (by decide : 2 ^ 33 ≤ 10 ^ 10) 33)
        _ ≤ 2 ^ (-1075 : Int) := zpow_le_zpow_right₀ (by norm_num) (by decide)
    exact absurd hvalue (not_lt.mpr hleast)
  · by_contra hlt
    have hlowQ : (10 : ℚ) ^ (k - 1) ≤ m := by exact_mod_cast hlow
    -- beyond the greatest size it would be greater than every double
    have hvalue : (2 : ℚ) ^ (1024 : Int) ≤ m * 10 ^ e := by
      calc (2 : ℚ) ^ (1024 : Int)
          ≤ 2 ^ (1025 : Int) := zpow_le_zpow_right₀ (by norm_num) (by decide)
        _ ≤ 10 ^ (310 : Int) := two_zpow_le_ten_zpow (by decide : 2 ^ 205 ≤ 10 ^ 62) 5
        _ ≤ 10 ^ (((k - 1 : ℕ) : Int) + e) := zpow_le_zpow_right₀ (by norm_num) (by omega)
        _ = 10 ^ (k - 1) * 10 ^ e := by rw [zpow_add₀ hten, zpow_natCast]
        _ ≤ m * 10 ^ e := mul_le_mul_of_nonneg_right hlowQ (ten_zpow_pos e).le
    exact absurd hvalue (not_le.mpr hgreatest)

/-- A decimal that rounds to a double is read as it, up to the sign. -/
theorem ofDecimal_of_roundsTo (hfinite : x.isFinite = true) (hmantissa : x.mantissa ≠ 0)
    (negative : Bool) {m : Nat} {e : Int} (hm : m ≠ 0) (h : x.RoundsTo (m * 10 ^ e)) :
    ofDecimal negative m e = withSign negative x.magnitude := by
  obtain ⟨hlow, hhigh⟩ := size_bounds hfinite hmantissa hm h
  rw [ofDecimal, if_neg (by omega), if_neg (by omega)]
  have hmPos : 0 < m := Nat.pos_of_ne_zero hm
  rw [decimal_value] at h
  split
  · next he =>
      rw [if_pos he, if_pos he] at h
      rw [nearestBits_of_roundsTo hfinite (Nat.mul_pos hmPos (powerOfTen_pos _)) Nat.one_pos h]
  · next he =>
      rw [if_neg he, if_neg he] at h
      rw [nearestBits_of_roundsTo hfinite hmPos (powerOfTen_pos _) h]

/-- The sign and the magnitude make the number. -/
lemma withSign_magnitude (x : Double) : withSign x.isNegative x.magnitude = x := by
  obtain ⟨bits⟩ := x
  have hlt : bits.toNat < 2 ^ 64 := bits.toNat_lt
  have hsum : (if isNegative ⟨bits⟩ then powerOfTwo 63 else 0) + magnitude ⟨bits⟩ = bits.toNat := by
    have hfields : powerOfTwo 52 = 2 ^ 52 ∧ powerOfTwo 63 = 2 ^ 63 ∧ powerOfTwo 11 = 2 ^ 11 :=
      ⟨rfl, rfl, rfl⟩
    simp only [isNegative, magnitude, exponentField, fractionField, hfields, decide_eq_true_eq]
    split <;> omega
  rw [withSign, hsum]
  exact congrArg Double.mk UInt64.ofNat_toNat

end Double

end HotReload
