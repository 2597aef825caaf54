import HotReload.Json.Reader
import HotReload.Proofs.Numerals
/-!
JSON numbers: what is written for a number is read back as it.

* `EndsNumber`: a text with which no number goes on.
* `readNumber_signedDecimal_append`: integers, within the limit on digits.
* `numberText` writes a number by its parts, `readNumber_numberText_append` reads them back.
-/

namespace HotReload

/-- A number does not go on with this text. -/
def EndsNumber (rest : Text) : Prop :=
  ∀ c ∈ rest.head?, decimalDigit? c = none ∧ c ≠ '.' ∧ c ≠ 'e' ∧ c ≠ 'E'

lemma endsNumber_nil : EndsNumber [] := fun _ h => absurd h (by simp)

lemma endsNumber_cons {c : Char} (h : c = ',' ∨ c = ']' ∨ c = '}') (rest : Text) :
    EndsNumber (c :: rest) := by
  intro d hd
  obtain rfl : c = d := by simpa using hd
  rcases h with rfl | rfl | rfl <;> decide

lemma readFraction_of_endsNumber {rest : Text} (h : EndsNumber rest) :
    readFraction rest = none := by
  rw [readFraction.eq_def]
  split
  · next more => exact absurd rfl (h '.' rfl).2.1
  · rfl

lemma readPower_of_endsNumber {rest : Text} (h : EndsNumber rest) :
    Double.readPower rest = none := by
  cases rest with
  | nil => rfl
  | cons c rest =>
      have hc := h c rfl
      rw [Double.readPower.eq_def]
      exact if_neg (by simp [hc.2.2])

/-! ### Integer parts -/

/-- The digits of an integer part: a zero, or digits without a zero before them. -/
structure IsWhole (digits : List Nat) : Prop where
  lt : ∀ d ∈ digits, d < 10
  nonempty : digits ≠ []
  head : digits.head? = some 0 → digits = [0]

lemma isWhole_bigDigits (n : Nat) : IsWhole (bigDigits 10 n) where
  lt := fun _ hd => bigDigits_lt (by decide) hd
  nonempty := bigDigits_ne_nil n
  head := fun hhead => by
    by_cases hn : n = 0
    · rw [bigDigits, if_pos hn]
    · exact absurd hhead (head?_bigDigits_ne_zero hn)

lemma digitChar_ne_zero : ∀ d < 10, d ≠ 0 → digitChar d ≠ '0' := by decide

lemma digitChar_ne_minus : ∀ d < 10, digitChar d ≠ '-' := by decide

lemma spanDigits_digits_append {digits : List Nat} (hdigits : ∀ d ∈ digits, d < 10) {rest : Text}
    (hrest : ∀ c ∈ rest.head?, decimalDigit? c = none) :
    spanDigits decimalDigit? (digits.map digitChar ++ rest) = (digits, rest) :=
  spanDigits_map_append (fun d hd => decimalDigit?_digitChar (hdigits d hd)) hrest

/-- The digits of an integer part are read back. -/
lemma IsWhole.read_append {digits : List Nat} (h : IsWhole digits) {rest : Text}
    (hrest : ∀ c ∈ rest.head?, decimalDigit? c = none) :
    readWhole (digits.map digitChar ++ rest) = some (digits, rest) := by
  obtain ⟨d, ds, rfl⟩ := List.exists_cons_of_ne_nil h.nonempty
  have hspan := spanDigits_digits_append h.lt hrest
  by_cases hd : d = 0
  · subst hd
    obtain rfl : ds = [] := by simpa using h.head rfl
    rfl
  · have hne : digitChar d ≠ '0' := digitChar_ne_zero d (h.lt d List.mem_cons_self) hd
    rw [readWhole.eq_def]
    split
    · next more hmore =>
        rw [List.map_cons, List.cons_append] at hmore
        exact absurd (List.cons.inj hmore).1 hne
    · rw [hspan]

/-- Only a minus counts as a sign, and an integer part begins with none. -/
lemma IsWhole.readMinus_append {digits : List Nat} (h : IsWhole digits) (rest : Text) :
    readMinus (digits.map digitChar ++ rest) = (false, digits.map digitChar ++ rest) := by
  obtain ⟨d, ds, rfl⟩ := List.exists_cons_of_ne_nil h.nonempty
  rw [readMinus]
  intro more hmore
  rw [List.map_cons, List.cons_append] at hmore
  exact digitChar_ne_minus d (h.lt d List.mem_cons_self) (List.cons.inj hmore).1

/-! ### Integers -/

lemma decimal_eq_map (n : Nat) : decimal n = (bigDigits 10 n).map digitChar :=
  numeral_eq_map_bigDigits (by decide) n

/-- A sign and digits that end are read as an integer. -/
lemma readNumber_of_minus {limits : JsonLimits} {text rest : Text} {negative : Bool} {n : Nat}
    (hminus : readMinus text = (negative, decimal n ++ rest)) (h : EndsNumber rest)
    (hlimit : JsonLimits.exceeded limits.digits (decimal n).length = false) :
    readNumber limits text = .ok (.int (if negative then -n else n), rest) := by
  have hlength : (bigDigits 10 n).length = (decimal n).length := by
    rw [decimal_eq_map, List.length_map]
  have hwhole : readWhole (decimal n ++ rest) = some (bigDigits 10 n, rest) := by
    rw [decimal_eq_map]
    exact (isWhole_bigDigits n).read_append fun c hc => (h c hc).1
  rw [readNumber, hminus]
  simp [hwhole, readFraction_of_endsNumber h, readPower_of_endsNumber h, hlength, hlimit,
    numeralValue_bigDigits]

/-- An integer that is written is read back, if its digits are within the limit. -/
theorem readNumber_signedDecimal_append (limits : JsonLimits) (n : Int) {rest : Text}
    (h : EndsNumber rest)
    (hlimit : JsonLimits.exceeded limits.digits (decimal n.natAbs).length = false) :
    readNumber limits (signedDecimal n ++ rest) = .ok (.int n, rest) := by
  cases n with
  | ofNat n =>
      have hminus : readMinus (signedDecimal (.ofNat n) ++ rest) = (false, decimal n ++ rest) := by
        rw [signedDecimal, decimal_eq_map]
        exact (isWhole_bigDigits n).readMinus_append rest
      exact readNumber_of_minus hminus h hlimit
  | negSucc n =>
      have hminus : readMinus (signedDecimal (.negSucc n) ++ rest) =
          (true, decimal (n + 1) ++ rest) := rfl
      exact readNumber_of_minus hminus h hlimit

/-! ### Fractions and powers -/

/-- The text of a fraction part; without digits there is none. -/
def fractionText (digits : List Nat) : Text :=
  if digits = [] then [] else '.' :: digits.map digitChar

/-- The text of a power of ten, if there is one. -/
def powerText : Option Int → Text
  | none => []
  | some power => ['e', if power < 0 then '-' else '+'] ++ padded 10 2 power.natAbs

/-- The text of a number without its sign. -/
def numberText (whole fraction : List Nat) (power? : Option Int) : Text :=
  whole.map digitChar ++ fractionText fraction ++ powerText power?

lemma padded_eq_map (width n : Nat) :
    padded 10 width n =
      (List.replicate (width - (decimal n).length) 0 ++ bigDigits 10 n).map digitChar := by
  have hzero : digitChar 0 = '0' := rfl
  rw [padded, ← decimal, List.map_append, List.map_replicate, hzero, ← decimal_eq_map]

lemma numeralValue_zeros_append (k : Nat) (digits : List Nat) :
    numeralValue 10 (List.replicate k 0 ++ digits) = numeralValue 10 digits := by
  induction k with
  | zero => rfl
  | succ k ih => rw [List.replicate_succ, List.cons_append, ← ih]; rfl

lemma numeralValue_append_zeros (digits : List Nat) (k : Nat) :
    numeralValue 10 (digits ++ List.replicate k 0) = numeralValue 10 digits * 10 ^ k := by
  induction k with
  | zero => rw [List.replicate_zero, List.append_nil, Nat.pow_zero, Nat.mul_one]
  | succ k ih =>
      rw [List.replicate_succ', ← List.append_assoc, numeralValue, List.foldl_concat,
        ← numeralValue, ih, Nat.pow_succ, Nat.add_zero, Nat.mul_assoc]

/-- The sign of a power is read back. -/
lemma readSign_power (power : Int) (rest : Text) :
    Double.readSign ((if power < 0 then '-' else '+') :: rest) = (decide (power < 0), rest) := by
  by_cases hpower : power < 0
  · rw [if_pos hpower, decide_eq_true hpower]
    rfl
  · rw [if_neg hpower, decide_eq_false hpower]
    rfl

/-- A power is read back, with its sign. -/
lemma readPower_powerText_append (power : Int) {rest : Text} (h : EndsNumber rest) :
    Double.readPower (powerText (some power) ++ rest) = some (power, rest) := by
  have hvalue := numeralValue_zeros_append (2 - (decimal power.natAbs).length)
    (bigDigits 10 power.natAbs)
  have hlt : ∀ d ∈ List.replicate (2 - (decimal power.natAbs).length) 0 ++
      bigDigits 10 power.natAbs, d < 10 := by
    intro d hd
    rcases List.mem_append.mp hd with hzero | hdigit
    · rw [List.eq_of_mem_replicate hzero]
      decide
    · exact bigDigits_lt (by decide) hdigit
  -- the zeros that pad the power are digits like the others, and count for nothing
  have hspan := spanDigits_digits_append hlt fun c hc => (h c hc).1
  obtain ⟨d, ds, hdigits⟩ := List.exists_cons_of_ne_nil
    (List.append_ne_nil_of_right_ne_nil (List.replicate (2 - (decimal power.natAbs).length) 0)
      (bigDigits_ne_nil power.natAbs : bigDigits 10 power.natAbs ≠ []))
  rw [numeralValue_bigDigits, hdigits] at hvalue
  rw [← padded_eq_map, hdigits] at hspan
  have htext : powerText (some power) ++ rest =
      'e' :: (if power < 0 then '-' else '+') :: (padded 10 2 power.natAbs ++ rest) := rfl
  have hpower : (if decide (power < 0) then -(power.natAbs : Int) else power.natAbs) = power := by
    by_cases hneg : power < 0
    · rw [decide_eq_true hneg, if_pos rfl]
      omega
    · rw [decide_eq_false hneg, if_neg Bool.false_ne_true]
      omega
  rw [htext, Double.readPower, if_pos (.inl rfl), readSign_power]
  simp only [hspan, hvalue, hpower]

/-- What stands behind the digits of a number is no digit. -/
lemma decimalDigit?_powerText_append (power? : Option Int) {rest : Text} (h : EndsNumber rest) :
    ∀ c ∈ (powerText power? ++ rest).head?, decimalDigit? c = none := by
  cases power? with
  | none => exact fun c hc => (h c hc).1
  | some power =>
      intro c hc
      obtain rfl : 'e' = c := Option.some.inj hc
      decide

lemma readFraction_powerText_append (power? : Option Int) {rest : Text} (h : EndsNumber rest) :
    readFraction (powerText power? ++ rest) = none := by
  cases power? with
  | none => exact readFraction_of_endsNumber h
  | some power => rfl

lemma readFraction_fractionText_append {digits : List Nat} (hlt : ∀ d ∈ digits, d < 10)
    (hne : digits ≠ []) (power? : Option Int) {rest : Text} (h : EndsNumber rest) :
    readFraction (fractionText digits ++ (powerText power? ++ rest)) =
      some (digits, powerText power? ++ rest) := by
  have hspan := spanDigits_digits_append hlt (decimalDigit?_powerText_append power? h)
  obtain ⟨d, ds, rfl⟩ := List.exists_cons_of_ne_nil hne
  rw [fractionText, if_neg hne, List.cons_append, readFraction, hspan]

/-- **Numbers**. A number with a fraction or a power is read back by its parts, before any text
with which no number goes on. -/
theorem readNumber_numberText_append (limits : JsonLimits) {whole fraction : List Nat}
    {power? : Option Int} {negative : Bool} {text rest : Text} (hwhole : IsWhole whole)
    (hfraction : ∀ d ∈ fraction, d < 10) (hfloat : fraction ≠ [] ∨ power? ≠ none)
    (hminus : readMinus text = (negative, numberText whole fraction power? ++ rest))
    (hrest : EndsNumber rest) :
    readNumber limits text =
      .ok (.float (.ofParts negative whole fraction (power?.getD 0)), rest) := by
  have hassoc : numberText whole fraction power? ++ rest =
      whole.map digitChar ++ (fractionText fraction ++ (powerText power? ++ rest)) := by
    rw [numberText, List.append_assoc, List.append_assoc]
  rw [readNumber, hminus, hassoc]
  -- without a fraction there is a power, which the digits of the whole part end at
  by_cases hempty : fraction = []
  · subst hempty
    obtain ⟨power, rfl⟩ := Option.ne_none_iff_exists'.mp (hfloat.resolve_left (absurd rfl))
    have hread := hwhole.read_append (decimalDigit?_powerText_append (some power) hrest)
    have hfractionText : fractionText [] = [] := rfl
    rw [hfractionText, List.nil_append]
    simp only [hread, readFraction_powerText_append, hrest, readPower_powerText_append,
      Option.getD_some]
  · have hhead : ∀ c ∈ (fractionText fraction ++ (powerText power? ++ rest)).head?,
        decimalDigit? c = none := by
      rw [fractionText, if_neg hempty]
      intro c hc
      obtain rfl : '.' = c := Option.some.inj hc
      decide
    have hread := hwhole.read_append hhead
    simp only [hread, readFraction_fractionText_append hfraction hempty power? hrest]
    cases power? with
    | none =>
        have htext : powerText none ++ rest = rest := rfl
        simp only [htext, readPower_of_endsNumber hrest, Option.getD_none]
    | some power => simp only [readPower_powerText_append power hrest, Option.getD_some]

end HotReload
