import HotReload.Proofs.Numerals
/-!
The digits of a number taken off one by one.

* `DigitLoop` is the loop that divides what is left of a number by thirty-six and keeps the digit
  of the remainder, the last digit of the number first. `DigitLoop.step_cases` says what a turn
  does.
* `DigitLoop.MakesUp`: what has been taken and what is left make up the number. A turn keeps this
  (`MakesUp.step`), and so do all turns (`MakesUp.after`).
* `DigitLoop.exists_after`: the loop ends.
* `digitLoop_writes_numeral`: it has then taken the digits of the numeral, which is the only text
  that is a numeral of the number.
-/

namespace HotReload

/-- The digits from that of zero to that of thirty-five. -/
def digitRow : Text := "0123456789abcdefghijklmnopqrstuvwxyz"

/-- The state of the loop: what is left of the number, and the digits taken off it so far. -/
structure DigitLoop where
  left : ℕ
  taken : Text

namespace DigitLoop

/-- One turn. What is left is divided by thirty-six, and the digit of the remainder is put behind
the digits so far. The loop ends when nothing is left. -/
def step? (s : DigitLoop) : Option DigitLoop :=
  if s.left = 0 then none
  else digitRow[s.left % 36]?.map fun digit => ⟨s.left / 36, s.taken ++ [digit]⟩

/-- The state after a number of turns, if there are so many. -/
def after : ℕ → DigitLoop → Option DigitLoop
  | 0, s => some s
  | turns + 1, s => s.step?.bind (after turns)

/-- The loop at its start. -/
def start (n : ℕ) : DigitLoop := ⟨n, []⟩

/-- What is written for a number, and after how many turns: zero has its digit without the loop;
for any other number it is what has been taken when nothing is left, in reverse. -/
inductive Writes (n : ℕ) : ℕ → Text → Prop where
  | zero (hn : n = 0) : Writes n 0 ['0']
  | ended {turns : ℕ} {taken : Text} (hn : n ≠ 0)
      (hend : (start n).after turns = some ⟨0, taken⟩) : Writes n turns taken.reverse

variable {s s' : DigitLoop} {n turns : ℕ}

/-! ### One turn -/

lemma getElem?_digitRow {d : ℕ} (h : d < 36) : digitRow[d]? = some (digitChar d) := by
  have : ∀ d < 36, digitRow[d]? = some (digitChar d) := by decide
  exact this d h

/-- A turn never lacks its digit. -/
lemma step_cases (s : DigitLoop) :
    (s.left = 0 ∧ s.step? = none) ∨
      (s.left ≠ 0 ∧ s.step? = some ⟨s.left / 36, s.taken ++ [digitChar (s.left % 36)]⟩) := by
  by_cases hleft : s.left = 0
  · exact .inl ⟨hleft, by rw [step?, if_pos hleft]⟩
  · refine .inr ⟨hleft, ?_⟩
    rw [step?, if_neg hleft, getElem?_digitRow (Nat.mod_lt _ (by decide)), Option.map_some]

/-- The digits that have been taken, the last one of the number first, and what is left make up
the number. When nothing is left, the digit taken last is not zero. -/
structure MakesUp (n : ℕ) (s : DigitLoop) : Prop where
  digits : ∃ row, s.taken = row.map digitChar ∧ (∀ d ∈ row, d < 36) ∧
    Nat.ofDigits 36 row + 36 ^ row.length * s.left = n
  last : s.left = 0 → s.taken.getLast? ≠ some '0'

lemma makesUp_start (n : ℕ) : MakesUp n (start n) := by
  refine ⟨⟨[], rfl, List.forall_mem_nil _, ?_⟩, fun _ => by simp [start]⟩
  simp [start]

/-- A turn moves one digit from what is left to what has been taken. -/
lemma MakesUp.step (hs : MakesUp n s) (h : s.step? = some s') :
    MakesUp n s' ∧ s'.taken.length = s.taken.length + 1 := by
  rcases s.step_cases with ⟨-, hnone⟩ | ⟨hleft, hstep⟩
  · exact absurd (hnone.symm.trans h) (by simp)
  · obtain rfl := Option.some.inj (hstep.symm.trans h)
    obtain ⟨row, htaken, hlt, hsum⟩ := hs.digits
    have hdigit : s.left % 36 < 36 := Nat.mod_lt _ (by decide)
    refine ⟨⟨⟨row ++ [s.left % 36], ?_, ?_, ?_⟩, fun hzero => ?_⟩, List.length_append⟩
    · rw [htaken, List.map_append, List.map_singleton]
    · exact List.forall_mem_append.mpr ⟨hlt, List.forall_mem_singleton.mpr hdigit⟩
    · calc Nat.ofDigits 36 (row ++ [s.left % 36]) +
            36 ^ (row ++ [s.left % 36]).length * (s.left / 36)
          = Nat.ofDigits 36 row + 36 ^ row.length * (s.left % 36 + 36 * (s.left / 36)) := by
            rw [Nat.ofDigits_append, Nat.ofDigits_singleton, List.length_append,
              List.length_singleton, pow_succ]
            ring
        _ = n := by rw [Nat.mod_add_div, hsum]
    · -- the last digit is all that was left
      have hall : s.left % 36 = s.left := Nat.mod_eq_of_lt (by dsimp only at hzero; omega)
      rw [List.getLast?_concat, Ne, Option.some.injEq]
      exact fun hchar => hleft (hall ▸ digitChar_eq_zero hdigit hchar)

/-! ### All turns -/

lemma MakesUp.after (hs : MakesUp n s) (h : s.after turns = some s') :
    MakesUp n s' ∧ s'.taken.length = s.taken.length + turns := by
  induction turns generalizing s with
  | zero =>
      obtain rfl := Option.some.inj h
      exact ⟨hs, rfl⟩
  | succ turns ih =>
      obtain ⟨next, hstep, hrest⟩ := Option.bind_eq_some_iff.mp h
      obtain ⟨hnext, hlength⟩ := hs.step hstep
      obtain ⟨hend, hlengths⟩ := ih hnext hrest
      exact ⟨hend, by omega⟩

/-- The loop ends, as with every turn less is left. -/
lemma exists_after (left : ℕ) (taken : Text) :
    ∃ turns digits, after turns ⟨left, taken⟩ = some ⟨0, digits⟩ := by
  induction left using Nat.strong_induction_on generalizing taken with
  | _ left ih =>
      rcases step_cases ⟨left, taken⟩ with ⟨hleft, -⟩ | ⟨hleft, hstep⟩
      · dsimp only at hleft
        exact ⟨0, taken, by rw [hleft]; rfl⟩
      · have hless : left / 36 < left := Nat.div_lt_self (Nat.pos_of_ne_zero hleft) (by decide)
        obtain ⟨turns, digits, hrest⟩ := ih (left / 36) hless (taken ++ [digitChar (left % 36)])
        exact ⟨turns + 1, digits, by rw [after, hstep, Option.bind_some, hrest]⟩

/-- When nothing is left, the digits taken are in reverse the numeral of the number. -/
lemma MakesUp.isNumeral (hs : MakesUp n s) (hleft : s.left = 0) (hn : n ≠ 0) :
    IsNumeral 36 n s.taken.reverse := by
  obtain ⟨row, htaken, hlt, hsum⟩ := hs.digits
  have hlast := hs.last hleft
  rw [hleft, Nat.mul_zero, Nat.add_zero] at hsum
  rw [htaken, List.getLast?_map] at hlast
  rw [htaken, ← List.map_reverse]
  refine isNumeral_map_digitChar le_rfl (fun d hd => hlt d (List.mem_reverse.mp hd)) ?_ ?_ ?_
  · rw [numeralValue_reverse, hsum]
  · intro hrow
    rw [List.reverse_eq_nil_iff.mp hrow] at hsum
    exact hn hsum.symm
  · intro hhead
    rw [List.head?_reverse] at hhead
    exact absurd (by rw [hhead]; rfl) hlast

/-- A number other than zero has as many digits as the division gives. -/
lemma length_numeral_of_ne_zero (hn : n ≠ 0) :
    (numeral 36 n).length = (Nat.digits 36 n).length := by
  rw [numeral_eq_map_bigDigits (by decide), List.length_map, bigDigits, if_neg hn,
    List.length_reverse]

/-- What is written is the numeral, after a turn for each digit. -/
lemma Writes.eq_numeral {text : Text} (h : Writes n turns text) :
    turns = (Nat.digits 36 n).length ∧ text = numeral 36 n := by
  cases h with
  | zero hn =>
      subst hn
      exact ⟨rfl, (numeral_zero (by decide)).symm⟩
  | @ended _ taken hn hend =>
      obtain ⟨hmakes, hlength⟩ := (makesUp_start n).after hend
      have htext : taken.reverse = numeral 36 n :=
        (isNumeral_iff (by decide) le_rfl).mp (hmakes.isNumeral rfl hn)
      refine ⟨?_, htext⟩
      rw [← length_numeral_of_ne_zero hn, ← htext, List.length_reverse]
      simpa [start] using hlength.symm

/-- Something is written for every number. -/
lemma exists_writes (n : ℕ) : ∃ turns text, Writes n turns text := by
  by_cases hn : n = 0
  · exact ⟨0, ['0'], .zero hn⟩
  · obtain ⟨turns, taken, hend⟩ := exists_after n []
    exact ⟨turns, taken.reverse, .ended hn hend⟩

end DigitLoop

/-- **Canonical numerals**. The loop ends for every number, after a turn for each of its digits,
and what is written is the numeral in base thirty-six: the only text of digits and lowercase
letters that is read back as the number and has no leading zero. So different numbers have
different numerals, and numbers of thirty-two bits have numerals of at most seven digits. -/
theorem digitLoop_writes_numeral :
    (∀ n turns text, DigitLoop.Writes n turns text ↔
      turns = (Nat.digits 36 n).length ∧ text = numeral 36 n) ∧
      (∀ n text, IsNumeral 36 n text ↔ text = numeral 36 n) ∧
      (∀ n m, n ≠ m → numeral 36 n ≠ numeral 36 m) ∧
      ∀ n, n < 2 ^ 32 → (numeral 36 n).length ≤ 7 := by
  have hiff (n : ℕ) (text : Text) : IsNumeral 36 n text ↔ text = numeral 36 n :=
    isNumeral_iff (by decide) le_rfl
  refine ⟨fun n turns text => ⟨DigitLoop.Writes.eq_numeral, ?_⟩, hiff, fun n m hne heq => ?_,
    fun n hn => ?_⟩
  · -- something is written, and there is only one way to do it
    rintro ⟨rfl, rfl⟩
    obtain ⟨turns, text, h⟩ := DigitLoop.exists_writes n
    obtain ⟨rfl, rfl⟩ := h.eq_numeral
    exact h
  · exact hne ((numeral_inj (by decide) le_rfl).mp heq)
  · have hseven : 2 ^ 32 < 36 ^ 7 := by decide
    exact (length_numeral_le_iff (by decide) (by decide)).mpr (hn.trans hseven)

/-- The greatest number of thirty-two bits, and one that needs a digit less. -/
theorem digitLoop_writes_numeral_greatest :
    DigitLoop.Writes 4294967295 7 "1z141z3" ∧
      (4294967295 ≠ 2176782335 ∧ numeral 36 4294967295 ≠ numeral 36 2176782335) ∧
      4294967295 < 2 ^ 32 ∧ (numeral 36 4294967295).length ≤ 7 := by
  have hne : 4294967295 ≠ 2176782335 := by decide
  have hlt : 4294967295 < 2 ^ 32 := by decide
  exact ⟨(digitLoop_writes_numeral.1 _ _ _).mpr ⟨by decide +kernel, by decide +kernel⟩,
    ⟨hne, digitLoop_writes_numeral.2.2.1 _ _ hne⟩, hlt, digitLoop_writes_numeral.2.2.2 _ hlt⟩

end HotReload
