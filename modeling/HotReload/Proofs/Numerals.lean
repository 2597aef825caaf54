import Mathlib.Data.Nat.Digits.Lemmas
import HotReload.Text.Numeral
/-!
Numerals and their digits.

* `numeral_eq_map_bigDigits`: a numeral is the row of the digits of its number, the first one
  first.
* `numeralValue_bigDigits`: the row of digits stands for the number.
* `isNumeral_numeral`: a numeral is read back, and has no leading zero (`IsNumeral`);
  `isNumeral_iff`: no other text is like that.
* `numeral_inj`: different numbers have different numerals.
* `length_numeral_le_iff`: how long a numeral is; `padded_succ`: the last digit of one with
  leading zeros.
* `spanDigits_map_append`: digits are read back up to the first other character.
-/

namespace HotReload

/-- The digits of a number from the first to the last; zero has one digit. -/
def bigDigits (base n : Nat) : List Nat := if n = 0 then [0] else (Nat.digits base n).reverse

variable {base : Nat}

/-- A numeral is the row of the digits. -/
lemma numeral_eq_map_bigDigits (hbase : 2 ≤ base) (n : Nat) :
    numeral base n = (bigDigits base n).map digitChar := by
  induction n using Nat.strong_induction_on with
  | _ n ih =>
      rw [numeral]
      by_cases hn : n = 0
      · subst hn
        rw [dif_pos (.inr (by omega)), bigDigits, if_pos rfl]
        rfl
      · have hdigits := Nat.digits_def' (b := base) (by omega) (Nat.pos_of_ne_zero hn)
        -- the last digit stands alone, or behind the digits of the quotient
        by_cases hlt : n < base
        · rw [dif_pos (.inr hlt), bigDigits, if_neg hn, hdigits, Nat.div_eq_of_lt hlt,
            Nat.digits_zero, Nat.mod_eq_of_lt hlt]
          rfl
        · have hquotient : n / base ≠ 0 := Nat.div_ne_zero_iff.mpr ⟨by omega, by omega⟩
          rw [dif_neg (by omega), ih (n / base) (Nat.div_lt_self (by omega) (by omega)),
            bigDigits, if_neg hquotient, bigDigits, if_neg hn, hdigits, List.reverse_cons,
            List.map_append]
          rfl

lemma bigDigits_lt (hbase : 2 ≤ base) {n d : Nat} (hd : d ∈ bigDigits base n) : d < base := by
  rw [bigDigits] at hd
  split at hd
  · rw [List.mem_singleton] at hd
    omega
  · exact Nat.digits_lt_base (by omega) (List.mem_reverse.mp hd)

lemma bigDigits_ne_nil (n : Nat) : bigDigits base n ≠ [] := by
  rw [bigDigits]
  split
  · exact List.cons_ne_nil 0 []
  · next hn => simpa using Nat.digits_ne_nil_iff_ne_zero.mpr hn

lemma numeralValue_reverse (digits : List Nat) :
    numeralValue base digits.reverse = Nat.ofDigits base digits := by
  rw [numeralValue, List.foldl_reverse, Nat.ofDigits_eq_foldr]
  congr 1
  funext d value
  simp only [Nat.cast_id]
  rw [Nat.mul_comm, Nat.add_comm]

/-- The row of digits stands for the number. -/
lemma numeralValue_bigDigits (n : Nat) : numeralValue base (bigDigits base n) = n := by
  rw [bigDigits]
  split
  · next hn => simp [numeralValue, hn]
  · rw [numeralValue_reverse, Nat.ofDigits_digits]

/-- The first digit of a number other than zero is not zero. -/
lemma head?_bigDigits_ne_zero {n : Nat} (hn : n ≠ 0) : (bigDigits base n).head? ≠ some 0 := by
  rw [bigDigits, if_neg hn, List.head?_reverse,
    List.getLast?_eq_some_getLast (Nat.digits_ne_nil_iff_ne_zero.mpr hn)]
  intro h
  exact Nat.getLast_digit_ne_zero base hn (Option.some.inj h)

lemma length_bigDigits_le_iff (hbase : 2 ≤ base) {n k : Nat} (hk : k ≠ 0) :
    (bigDigits base n).length ≤ k ↔ n < base ^ k := by
  rw [bigDigits]
  split
  · next hn =>
      have hpos : 0 < base ^ k := Nat.pow_pos (by omega)
      simp only [List.length_singleton]
      omega
  · rw [List.length_reverse, Nat.digits_length_le_iff (by omega)]

/-- A numeral has at most `k` digits if its number lies below the power `k` of the base. -/
lemma length_numeral_le_iff (hbase : 2 ≤ base) {n k : Nat} (hk : k ≠ 0) :
    (numeral base n).length ≤ k ↔ n < base ^ k := by
  rw [numeral_eq_map_bigDigits hbase, List.length_map, length_bigDigits_le_iff hbase hk]

/-! ### The numeral of a number -/

/-- A text is the numeral of a number: digits and lowercase letters below the base that are read
back as the number, without a leading zero. -/
structure IsNumeral (base n : ℕ) (text : Text) : Prop where
  digits : ∀ c ∈ text, ('0' ≤ c ∧ c ≤ '9') ∨ ('a' ≤ c ∧ c ≤ 'z')
  value : ∃ row, text.mapM digitValue? = some row ∧ (∀ d ∈ row, d < base) ∧
    numeralValue base row = n
  leading : text.head? = some '0' → text = ['0']
  ne_nil : text ≠ []

lemma digitValue?_digitChar {d : ℕ} (h : d < 36) : digitValue? (digitChar d) = some d := by
  have : ∀ d < 36, digitValue? (digitChar d) = some d := by decide
  exact this d h

lemma digitChar_bounds {d : ℕ} (h : d < 36) :
    ('0' ≤ digitChar d ∧ digitChar d ≤ '9') ∨ ('a' ≤ digitChar d ∧ digitChar d ≤ 'z') := by
  have : ∀ d < 36, ('0' ≤ digitChar d ∧ digitChar d ≤ '9') ∨
      ('a' ≤ digitChar d ∧ digitChar d ≤ 'z') := by
    decide
  exact this d h

lemma digitChar_eq_zero {d : ℕ} (h : d < 36) (hzero : digitChar d = '0') : d = 0 := by
  have : ∀ d < 36, digitChar d = '0' → d = 0 := by decide
  exact this d h hzero

lemma mapM_digitValue?_map {digits : List ℕ} (h : ∀ d ∈ digits, d < 36) :
    (digits.map digitChar).mapM digitValue? = some digits := by
  induction digits with
  | nil => rfl
  | cons d digits ih =>
      rw [List.forall_mem_cons] at h
      rw [List.map_cons, List.mapM_cons, digitValue?_digitChar h.1, ih h.2]
      rfl

/-- A row of digits that begins with zero only if it is zero is a numeral. -/
lemma isNumeral_map_digitChar (hlast : base ≤ 36) {n : ℕ} {row : List ℕ}
    (hlt : ∀ d ∈ row, d < base) (hvalue : numeralValue base row = n) (hne : row ≠ [])
    (hhead : row.head? = some 0 → row = [0]) : IsNumeral base n (row.map digitChar) := by
  have hdigit : ∀ d ∈ row, d < 36 := fun d hd => (hlt d hd).trans_le hlast
  constructor
  · exact List.forall_mem_map.mpr fun d hd => digitChar_bounds (hdigit d hd)
  · exact ⟨row, mapM_digitValue?_map hdigit, hlt, hvalue⟩
  · intro htext
    rw [List.head?_map, Option.map_eq_some_iff] at htext
    obtain ⟨d, hd, hzero⟩ := htext
    obtain rfl := digitChar_eq_zero (hdigit d (List.mem_of_mem_head? hd)) hzero
    rw [hhead hd]
    rfl
  · exact mt List.map_eq_nil_iff.mp hne

/-- What is written for a number is its numeral. -/
theorem isNumeral_numeral (hbase : 2 ≤ base) (hlast : base ≤ 36) (n : ℕ) :
    IsNumeral base n (numeral base n) := by
  rw [numeral_eq_map_bigDigits hbase]
  refine isNumeral_map_digitChar hlast (fun d hd => bigDigits_lt hbase hd)
    (numeralValue_bigDigits n) (bigDigits_ne_nil n) fun hhead => ?_
  by_cases hn : n = 0
  · rw [bigDigits, if_pos hn]
  · exact absurd hhead (head?_bigDigits_ne_zero hn)

/-- A text is the numeral of one number only. -/
lemma IsNumeral.unique {n m : ℕ} {text : Text} (hn : IsNumeral base n text)
    (hm : IsNumeral base m text) : n = m := by
  obtain ⟨row, hread, -, rfl⟩ := hn.value
  obtain ⟨row', hread', -, rfl⟩ := hm.value
  rw [hread, Option.some.injEq] at hread'
  rw [hread']

/-- A digit or letter is what is written for its value. -/
lemma eq_digitChar_of_digitValue? {c : Char} {d : ℕ} (h : digitValue? c = some d) :
    c = digitChar d := by
  have hcode (low high : Char) (hc : low ≤ c ∧ c ≤ high) :
      low.toNat ≤ c.toNat ∧ c.toNat ≤ high.toNat := hc
  have hends : '0'.toNat = 48 ∧ '9'.toNat = 57 ∧ 'a'.toNat = 97 ∧ 'z'.toNat = 122 := by decide
  rw [digitValue?] at h
  rw [digitChar]
  split at h
  · next hdigit =>
      have := hcode _ _ hdigit
      obtain rfl := Option.some.inj h
      rw [if_pos (by omega), Nat.add_sub_cancel' (by omega), Char.ofNat_toNat]
  · split at h
    · next hletter =>
        have := hcode _ _ hletter
        obtain rfl := Option.some.inj h
        rw [if_neg (by omega), Nat.add_sub_cancel' (by omega), Char.ofNat_toNat]
    · exact absurd h.symm (Option.some_ne_none d)

/-- A text that is read as a row of digits is what is written for the row. -/
lemma eq_map_of_mapM_digitValue? {text : Text} {row : List ℕ}
    (h : text.mapM digitValue? = some row) : text = row.map digitChar := by
  induction text generalizing row with
  | nil =>
      obtain rfl := Option.some.inj h
      rfl
  | cons c text ih =>
      rw [List.mapM_cons] at h
      obtain ⟨d, hc, h⟩ := Option.bind_eq_some_iff.mp h
      obtain ⟨rest, htext, h⟩ := Option.bind_eq_some_iff.mp h
      obtain rfl := Option.some.inj h
      rw [List.map_cons, ← eq_digitChar_of_digitValue? hc, ← ih htext]

/-- Digits without a leading zero are the digits of the number that they stand for. -/
lemma eq_bigDigits (hbase : 2 ≤ base) {row : List ℕ} (hlt : ∀ d ∈ row, d < base)
    (hne : row ≠ []) (hhead : row.head? ≠ some 0) :
    row = bigDigits base (numeralValue base row) := by
  have hdigits : Nat.digits base (numeralValue base row) = row.reverse := by
    rw [← List.reverse_reverse row, numeralValue_reverse, List.reverse_reverse]
    refine Nat.digits_ofDigits base (by omega) _ (fun d hd => hlt d (List.mem_reverse.mp hd)) ?_
    intro hrev hzero
    rw [List.getLast_reverse] at hzero
    exact hhead (by rw [List.head?_eq_some_head hne, hzero])
  have hpositive : numeralValue base row ≠ 0 := by
    intro hzero
    rw [hzero, Nat.digits_zero] at hdigits
    exact hne (List.reverse_eq_nil_iff.mp hdigits.symm)
  rw [bigDigits, if_neg hpositive, hdigits, List.reverse_reverse]

/-- A number has one numeral only: the one that is written. -/
theorem isNumeral_iff (hbase : 2 ≤ base) (hlast : base ≤ 36) {n : ℕ} {text : Text} :
    IsNumeral base n text ↔ text = numeral base n := by
  constructor
  · intro h
    obtain ⟨row, hread, hlt, rfl⟩ := h.value
    obtain rfl := eq_map_of_mapM_digitValue? hread
    have hne : row ≠ [] := fun hrow => h.ne_nil (by rw [hrow, List.map_nil])
    rw [numeral_eq_map_bigDigits hbase]
    by_cases hhead : row.head? = some 0
    · -- division gives zero no digit, so that the row of zero stands apart
      have hzero := h.leading (by rw [List.head?_map, hhead]; rfl)
      have hlength : row.length = 1 := by
        rw [← List.length_map digitChar, hzero, List.length_singleton]
      obtain ⟨d, rfl⟩ := List.length_eq_one_iff.mp hlength
      obtain rfl := Option.some.inj hhead
      simp [numeralValue, bigDigits]
    · rw [← eq_bigDigits hbase hlt hne hhead]
  · rintro rfl
    exact isNumeral_numeral hbase hlast n

/-- The numeral of a number tells the number. -/
lemma numeral_inj (hbase : 2 ≤ base) (hlast : base ≤ 36) {n m : ℕ} :
    numeral base n = numeral base m ↔ n = m := by
  refine ⟨fun h => ?_, fun h => by rw [h]⟩
  have hread : IsNumeral base n (numeral base m) := (isNumeral_iff hbase hlast).mpr h.symm
  exact hread.unique (isNumeral_numeral hbase hlast m)

/-! ### Leading zeros -/

lemma numeral_of_lt {n : Nat} (h : n < base) : numeral base n = [digitChar n] := by
  rw [numeral, dif_pos (.inr h)]

lemma numeral_zero (hbase : 2 ≤ base) : numeral base 0 = ['0'] :=
  numeral_of_lt (Nat.zero_lt_of_lt hbase)

lemma numeral_of_le (hbase : 2 ≤ base) {n : Nat} (h : base ≤ n) :
    numeral base n = numeral base (n / base) ++ [digitChar (n % base)] := by
  rw [numeral, dif_neg (by omega)]

lemma padded_one {n : Nat} (h : n < base) : padded base 1 n = [digitChar n] := by
  simp [padded, numeral_of_lt h]

/-- The last digit of a padded numeral stands apart. -/
lemma padded_succ (hbase : 2 ≤ base) {width : Nat} (hwidth : width ≠ 0) (n : Nat) :
    padded base (width + 1) n = padded base width (n / base) ++ [digitChar (n % base)] := by
  by_cases h : n < base
  · have hzero := numeral_zero hbase
    obtain ⟨width, rfl⟩ := Nat.exists_eq_succ_of_ne_zero hwidth
    simp [padded, numeral_of_lt h, Nat.div_eq_of_lt h, Nat.mod_eq_of_lt h, hzero,
      List.replicate_succ']
  · simp [padded, numeral_of_le hbase (Nat.le_of_not_lt h), ← List.append_assoc]

/-! ### Reading digits -/

/-- The digits of a row are read back, up to a text that begins with no digit. -/
lemma spanDigits_map_append {digit? : Char → Option Nat} {digits : List Nat} {rest : Text}
    (hdigits : ∀ d ∈ digits, digit? (digitChar d) = some d)
    (hrest : ∀ c ∈ rest.head?, digit? c = none) :
    spanDigits digit? (digits.map digitChar ++ rest) = (digits, rest) := by
  induction digits with
  | nil =>
      cases rest with
      | nil => rfl
      | cons c rest => simp [spanDigits, hrest c rfl]
  | cons d digits ih =>
      have hd := hdigits d List.mem_cons_self
      have hrec := ih fun e he => hdigits e (List.mem_cons_of_mem d he)
      rw [List.map_cons, List.cons_append, spanDigits, hd]
      simp only [hrec]

lemma decimalDigit?_digitChar {d : Nat} (h : d < 10) : decimalDigit? (digitChar d) = some d := by
  have : ∀ d < 10, decimalDigit? (digitChar d) = some d := by decide
  exact this d h

lemma hexDigit?_digitChar {d : Nat} (h : d < 16) : hexDigit? (digitChar d) = some d := by
  have : ∀ d < 16, hexDigit? (digitChar d) = some d := by decide
  exact this d h

end HotReload
