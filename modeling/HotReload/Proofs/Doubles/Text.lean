import HotReload.Proofs.Doubles.Shortest
import HotReload.Proofs.Json.Numbers
/-!
The text of a double in JSON.

* `Double.exists_placed_eq`: digits with a point or a power are the text of a number by its parts,
  and the parts make the decimal.
* `Double.readNumber_text_append`: the text of a finite double is read back as the double.
-/

namespace HotReload

namespace Double

/-- Parts of a number that is no integer, and that make the decimal `m · 10^e`. -/
structure AreParts (whole fraction : List Nat) (power? : Option Int) (m : Nat) (e : Int) : Prop where
  isWhole : IsWhole whole
  digits : ∀ d ∈ fraction, d < 10
  float : fraction ≠ [] ∨ power? ≠ none
  value : (numeralValue 10 (whole ++ fraction) : ℚ) * 10 ^ (power?.getD 0 - fraction.length) =
    m * 10 ^ e

section Placed

variable {m : Nat} {e point : Int}

/-- Digits that do not begin with a zero, when only so many of them are taken. -/
lemma isWhole_take (hm : m ≠ 0) {k : Nat} (hk : k ≠ 0) : IsWhole ((bigDigits 10 m).take k) := by
  obtain ⟨d, ds, hdigits⟩ := List.exists_cons_of_ne_nil (bigDigits_ne_nil m : bigDigits 10 m ≠ [])
  obtain ⟨k, rfl⟩ := Nat.exists_eq_succ_of_ne_zero hk
  refine ⟨fun d hd => (isWhole_bigDigits m).lt d (List.mem_of_mem_take hd), ?_, fun hhead => ?_⟩
  · rw [hdigits, List.take_succ_cons]
    exact List.cons_ne_nil _ _
  · have hne : (bigDigits 10 m).head? ≠ some 0 := head?_bigDigits_ne_zero hm
    rw [hdigits, List.take_succ_cons] at hhead
    rw [hdigits] at hne
    exact absurd hhead hne

lemma isWhole_append_zeros (hm : m ≠ 0) (k : Nat) :
    IsWhole (bigDigits 10 m ++ List.replicate k 0) := by
  obtain ⟨d, ds, hdigits⟩ := List.exists_cons_of_ne_nil (bigDigits_ne_nil m : bigDigits 10 m ≠ [])
  refine ⟨fun d hd => ?_, ?_, fun hhead => ?_⟩
  · rcases List.mem_append.mp hd with hdigit | hzero
    · exact (isWhole_bigDigits m).lt d hdigit
    · rw [List.eq_of_mem_replicate hzero]
      decide
  · rw [hdigits]
    exact List.cons_ne_nil _ _
  · have hne : (bigDigits 10 m).head? ≠ some 0 := head?_bigDigits_ne_zero hm
    rw [hdigits, List.cons_append] at hhead
    rw [hdigits] at hne
    exact absurd hhead hne

/-- The point stands before the digits. -/
lemma areParts_zeros {k : Nat} (hk : e + (bigDigits 10 m).length = -(k : Int)) :
    AreParts [0] (List.replicate k 0 ++ bigDigits 10 m) none m e := by
  refine ⟨⟨by decide, by decide, fun _ => rfl⟩, fun d hd => ?_, .inl ?_, ?_⟩
  · rcases List.mem_append.mp hd with hzero | hdigit
    · rw [List.eq_of_mem_replicate hzero]
      decide
    · exact (isWhole_bigDigits m).lt d hdigit
  · exact List.append_ne_nil_of_right_ne_nil _ (bigDigits_ne_nil m)
  · have hvalue : numeralValue 10 ([0] ++ (List.replicate k 0 ++ bigDigits 10 m)) = m := by
      rw [← List.replicate_one, numeralValue_zeros_append, numeralValue_zeros_append,
        numeralValue_bigDigits]
    have hexponent : (none : Option Int).getD 0 -
        ((List.replicate k 0 ++ bigDigits 10 m).length : Int) = e := by
      rw [List.length_append, List.length_replicate, Option.getD_none]
      omega
    rw [hvalue, hexponent]

/-- The point stands behind the digits and some zeros. -/
lemma areParts_append_zeros (hm : m ≠ 0) {k : Nat} (hk : e = k) :
    AreParts (bigDigits 10 m ++ List.replicate k 0) [0] none m e := by
  refine ⟨isWhole_append_zeros hm k, by decide, .inl (by decide), ?_⟩
  have hvalue : numeralValue 10 (bigDigits 10 m ++ List.replicate k 0 ++ [0]) = m * 10 ^ (k + 1) := by
    rw [List.append_assoc, ← List.replicate_succ', numeralValue_append_zeros,
      numeralValue_bigDigits]
  have hten : (10 : ℚ) ≠ 0 := by norm_num
  subst hk
  rw [hvalue, Nat.cast_mul, Nat.cast_pow, Nat.cast_ofNat, mul_assoc, ← zpow_natCast,
    ← zpow_add₀ hten]
  congr 2
  simp

/-- The point or a power stands behind the first digits. -/
lemma areParts_take (hm : m ≠ 0) {k : Nat} (hk : k ≠ 0) (power? : Option Int)
    (hfloat : k < (bigDigits 10 m).length ∨ power? ≠ none)
    (he : e = power?.getD 0 - ((bigDigits 10 m).length - k : ℕ)) :
    AreParts ((bigDigits 10 m).take k) ((bigDigits 10 m).drop k) power? m e := by
  refine ⟨isWhole_take hm hk, fun d hd => (isWhole_bigDigits m).lt d (List.mem_of_mem_drop hd),
    hfloat.imp_left fun hlt hnil => ?_, ?_⟩
  · rw [List.drop_eq_nil_iff] at hnil
    omega
  · rw [List.take_append_drop, numeralValue_bigDigits, List.length_drop, he]

lemma text_zeros (k m : Nat) :
    "0." ++ List.replicate k '0' ++ decimal m =
      numberText [0] (List.replicate k 0 ++ bigDigits 10 m) none := by
  have hne : List.replicate k 0 ++ bigDigits 10 m ≠ [] :=
    List.append_ne_nil_of_right_ne_nil _ (bigDigits_ne_nil m)
  have hlead : ("0." : Text) = ['0', '.'] := by decide
  have hzero : digitChar 0 = '0' := rfl
  rw [numberText, fractionText, if_neg hne, List.map_append, List.map_replicate, ← decimal_eq_map,
    hzero, hlead]
  simp [powerText, hzero]

lemma text_append_zeros (m k : Nat) :
    decimal m ++ List.replicate k '0' ++ ".0" =
      numberText (bigDigits 10 m ++ List.replicate k 0) [0] none := by
  have hend : (".0" : Text) = ['.', '0'] := by decide
  have hzero : digitChar 0 = '0' := rfl
  rw [numberText, List.map_append, List.map_replicate, ← decimal_eq_map, hzero, hend]
  simp [fractionText, powerText, hzero]

lemma text_take (m : Nat) {k : Nat} (hk : k < (bigDigits 10 m).length) :
    (decimal m).take k ++ ['.'] ++ (decimal m).drop k =
      numberText ((bigDigits 10 m).take k) ((bigDigits 10 m).drop k) none := by
  have hne : (bigDigits 10 m).drop k ≠ [] := by
    rw [ne_eq, List.drop_eq_nil_iff]
    omega
  rw [numberText, fractionText, if_neg hne, List.map_take, List.map_drop, ← decimal_eq_map]
  simp [powerText]

lemma text_power (m : Nat) (power : Int) :
    (decimal m).take 1 ++ (if (decimal m).length = 1 then [] else '.' :: (decimal m).drop 1) ++
        ['e', if power < 0 then '-' else '+'] ++ padded 10 2 power.natAbs =
      numberText ((bigDigits 10 m).take 1) ((bigDigits 10 m).drop 1) (some power) := by
  have hpos := decimal_length_pos m
  have hlength : (decimal m).length = (bigDigits 10 m).length := by
    rw [decimal_eq_map, List.length_map]
  have hdrop : (bigDigits 10 m).drop 1 = [] ↔ (decimal m).length = 1 := by
    rw [List.drop_eq_nil_iff, ← hlength]
    omega
  rw [numberText, fractionText, List.map_take, List.map_drop, ← decimal_eq_map, powerText]
  simp only [hdrop, List.append_assoc]

/-- **Digits and a point**. Where digits are placed, with a point or a power, the text is that of
a number by its parts, and the parts make the decimal. -/
lemma exists_placed_eq (hm : m ≠ 0) (e : Int) :
    ∃ whole fraction power?, AreParts whole fraction power? m e ∧
      placed (decimal m) (e + (decimal m).length) = numberText whole fraction power? := by
  have hpos := decimal_length_pos m
  have hlength : (decimal m).length = (bigDigits 10 m).length := by
    rw [decimal_eq_map, List.length_map]
  rw [placed]
  -- the point stands before the digits, behind them, or among them; or there is a power
  split
  · split
    · next hpoint =>
        have hparts : AreParts [0] (List.replicate (-(e + (decimal m).length)).toNat 0 ++
            bigDigits 10 m) none m e := areParts_zeros (by omega)
        exact ⟨_, _, _, hparts, text_zeros _ m⟩
    · split
      · next hpoint hle =>
          have hparts : AreParts (bigDigits 10 m ++ List.replicate
              ((e + (decimal m).length).toNat - (decimal m).length) 0) [0] none m e :=
            areParts_append_zeros hm (by omega)
          exact ⟨_, _, _, hparts, text_append_zeros m _⟩
      · next hpoint hlt =>
          have hlt' : (e + (decimal m).length).toNat < (bigDigits 10 m).length := by omega
          have hparts := areParts_take (e := e) hm (by omega) none (.inl hlt')
            (by rw [Option.getD_none]; omega)
          exact ⟨_, _, _, hparts, text_take m hlt'⟩
  · have hparts := areParts_take (e := e) hm (k := 1) (by decide)
      (some (e + (decimal m).length - 1)) (.inr (by simp)) (by rw [Option.getD_some]; omega)
    exact ⟨_, _, _, hparts, text_power m _⟩

end Placed

/-! ### Whole texts -/

variable {x : Double}

lemma mantissa_ne_zero (h : x.isZero = false) : x.mantissa ≠ 0 := by
  have hpos := powerOfTwo_pos 52
  rw [mantissa]
  split
  · next hfield => simpa [isZero, hfield] using h
  · omega

lemma ofParts_zero (h : x.isZero = true) : ofParts x.isNegative [0] [0] 0 = x := by
  have hmagnitude : x.magnitude = 0 := by
    have hfields : x.exponentField = 0 ∧ x.fractionField = 0 := by simpa [isZero] using h
    rw [magnitude, hfields.1, hfields.2, Nat.zero_mul]
  have hvalue : numeralValue 10 ([0] ++ [0]) = 0 := rfl
  rw [ofParts, hvalue, ofDecimal, if_pos (.inl rfl), ← hmagnitude]
  exact withSign_magnitude x

lemma ofParts_of_areParts (hfinite : x.isFinite = true) (hmantissa : x.mantissa ≠ 0)
    {whole fraction : List Nat} {power? : Option Int}
    (hparts : AreParts whole fraction power? x.shortest.1 x.shortest.2) :
    ofParts x.isNegative whole fraction (power?.getD 0) = x := by
  have hrounds := roundsTo_shortest hmantissa
  rw [← hparts.value] at hrounds
  have hne : numeralValue 10 (whole ++ fraction) ≠ 0 := by
    intro hzero
    have hpos := hrounds.pos hmantissa
    rw [hzero, Nat.cast_zero, zero_mul] at hpos
    exact absurd hpos (lt_irrefl 0)
  rw [ofParts, ofDecimal_of_roundsTo hfinite hmantissa _ hne hrounds]
  exact withSign_magnitude x

/-- The text of a finite double is a sign and the text of a number, whose parts make the
double. -/
lemma exists_text_eq (hfinite : x.isFinite = true) :
    ∃ whole fraction power?, IsWhole whole ∧ (∀ d ∈ fraction, d < 10) ∧
      (fraction ≠ [] ∨ power? ≠ none) ∧
      x.text = (if x.isNegative then ['-'] else []) ++ numberText whole fraction power? ∧
      ofParts x.isNegative whole fraction (power?.getD 0) = x := by
  have htext : x.text = x.finiteText := by
    rw [text, if_neg (by simp [isNaN, hfinite]), if_pos hfinite]
  rw [htext, finiteText]
  cases hzero : x.isZero with
  | true =>
      exact ⟨[0], [0], none, ⟨by decide, by decide, fun _ => rfl⟩, by decide, .inl (by decide),
        rfl, ofParts_zero hzero⟩
  | false =>
      have hmantissa := mantissa_ne_zero hzero
      obtain ⟨whole, fraction, power?, hparts, hplaced⟩ :=
        exists_placed_eq (shortest_ne_zero hmantissa) x.shortest.2
      refine ⟨whole, fraction, power?, hparts.isWhole, hparts.digits, hparts.float, ?_,
        ofParts_of_areParts hfinite hmantissa hparts⟩
      rw [← hplaced]
      rfl

/-- **Doubles**. The text of a finite double is read back as the double, before any text with
which no number goes on. -/
theorem readNumber_text_append (limits : JsonLimits) (hfinite : x.isFinite = true) {rest : Text}
    (hrest : EndsNumber rest) : readNumber limits (x.text ++ rest) = .ok (.float x, rest) := by
  obtain ⟨whole, fraction, power?, hwhole, hdigits, hfloat, htext, hparts⟩ :=
    exists_text_eq hfinite
  have hminus : readMinus (x.text ++ rest) =
      (x.isNegative, numberText whole fraction power? ++ rest) := by
    rw [htext]
    cases x.isNegative with
    | true => rfl
    | false =>
        have happend (tail : Text) : whole.map digitChar ++ fractionText fraction ++ tail =
            whole.map digitChar ++ (fractionText fraction ++ tail) := List.append_assoc _ _ _
        rw [if_neg Bool.false_ne_true, List.nil_append, numberText, List.append_assoc, happend]
        exact hwhole.readMinus_append _
  rw [readNumber_numberText_append limits hwhole hdigits hfloat hminus hrest, hparts]

end Double

end HotReload
