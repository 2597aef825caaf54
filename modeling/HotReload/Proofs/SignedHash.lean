import Mathlib.Data.Int.Bitwise
import Mathlib.Data.List.Forall2
import HotReload.Proofs.Numerals
import HotReload.Proofs.Units
import HotReload.Stylesheet.Hash
/-!
The hash of a text, in signed integers of thirty-two bits.

* `signedHash` takes the units in from the last to the first, as a loop over signed integers that
  reduces every shift and every difference.
* `signedStep_toInt`: a step of it is a step of the unsigned hash on the same bits.
* `IsUnitRow`: the units of a character, by themselves or as a pair of surrogates.
* `hashUnits_reads_signedHash`: the hash is the numeral of what the loop ends with, read without a
  sign.
-/

namespace HotReload

/-! ### The loop -/

/-- A number reduced to a signed integer of thirty-two bits. -/
def toInt32 (n : ℤ) : ℤ :=
  if n % 2 ^ 32 < 2 ^ 31 then n % 2 ^ 32 else n % 2 ^ 32 - 2 ^ 32

/-- Takes in one unit: the value is shifted by five places and less itself, both reduced, and then
the bits of the unit are mixed in. -/
def signedStep (value : ℤ) (unit : UInt16) : ℤ :=
  (toInt32 (toInt32 (value <<< (5 : ℕ)) - value)).xor unit.toNat

/-- The value after all units, the last one taken in first. -/
def signedHash (units : List UInt16) : ℤ := units.reverse.foldl signedStep 5381

/-- The unsigned reading of a signed integer of thirty-two bits. -/
def unsignedReading (value : ℤ) : ℕ := (value % 2 ^ 32).toNat

/-! ### One step -/

lemma toInt32_eq_bmod (n : ℤ) : toInt32 n = n.bmod (2 ^ 32) := by
  rw [toInt32, Int.bmod]
  norm_num

/-- Mixing the bits of a number that is not negative into a signed integer mixes them into its
bits. -/
lemma xor_toInt {w : ℕ} (x y : BitVec w) (hy : y.msb = false) :
    x.toInt.xor y.toNat = (x ^^^ y).toInt := by
  cases hx : x.msb with
  | false =>
      have hmsb : (x ^^^ y).msb = false := by rw [BitVec.msb_xor, hx, hy]; rfl
      rw [BitVec.toInt_eq_toNat_of_msb hx, BitVec.toInt_eq_toNat_of_msb hmsb, BitVec.toNat_xor]
      rfl
  | true =>
      -- a negative number has the bits of the one that is its complement
      have hneg {z : BitVec w} (hz : z.msb = true) : z.toInt = Int.negSucc (~~~z).toNat := by
        have hlt := z.isLt
        rw [BitVec.toInt_eq_msb_cond, if_pos hz, BitVec.toNat_not, Int.negSucc_eq]
        omega
      have hmsb : (x ^^^ y).msb = true := by rw [BitVec.msb_xor, hx, hy]; rfl
      rw [hneg hx, hneg hmsb, BitVec.not_xor_left, BitVec.toNat_xor]
      rfl

/-- A step over signed integers is a step over words with the same bits. -/
lemma signedStep_toInt (value : UInt32) (unit : UInt16) :
    signedStep value.toBitVec.toInt unit = (hashStep unit value).toBitVec.toInt := by
  have hshift : toInt32 (value.toBitVec.toInt <<< (5 : ℕ)) = (value.toBitVec <<< 5).toInt := by
    rw [toInt32_eq_bmod, Int.shiftLeft_eq, BitVec.toInt_shiftLeft, Nat.shiftLeft_eq,
      BitVec.toInt_eq_toNat_bmod]
    push_cast
    exact Int.bmod_mul_bmod
  have hless : toInt32 ((value.toBitVec <<< 5).toInt - value.toBitVec.toInt) =
      (value.toBitVec <<< 5 - value.toBitVec).toInt := by
    rw [toInt32_eq_bmod, BitVec.toInt_sub]
  have hunit : unit.toUInt32.toBitVec.msb = false := by
    have hlt := unit.toNat_lt
    rw [BitVec.msb_eq_false_iff_two_mul_lt, UInt32.toNat_toBitVec, UInt16.toNat_toUInt32]
    omega
  rw [signedStep, hshift, hless, ← UInt16.toNat_toUInt32, ← UInt32.toNat_toBitVec,
    xor_toInt _ _ hunit]
  rfl

/-! ### The hash -/

/-- After all units the loop has the bits of the unsigned value. -/
lemma signedHash_eq_toInt (units : List UInt16) :
    signedHash units = (hashValue units).toBitVec.toInt := by
  rw [signedHash, hashValue, List.foldl_reverse]
  induction units with
  | nil => rfl
  | cons unit units ih => rw [List.foldr_cons, ih, List.foldr_cons, signedStep_toInt]

lemma unsignedReading_toInt (value : UInt32) :
    unsignedReading value.toBitVec.toInt = value.toNat := by
  have hlt := value.toNat_lt
  have hreduced : value.toBitVec.toInt % 2 ^ 32 = value.toNat % 2 ^ 32 := by
    rw [BitVec.toInt_eq_toNat_bmod, UInt32.toNat_toBitVec]
    exact Int.bmod_emod
  rw [unsignedReading, hreduced]
  omega

/-- The values of the loop are signed integers of thirty-two bits. -/
lemma signedHash_bounds (units : List UInt16) :
    -2 ^ 31 ≤ signedHash units ∧ signedHash units < 2 ^ 31 := by
  rw [signedHash_eq_toInt]
  exact ⟨BitVec.le_toInt _, BitVec.toInt_lt⟩

/-- The units of a character: one of its own, or a high and a low surrogate. -/
inductive IsUnitRow (c : Char) : List UInt16 → Prop where
  | single {unit : UInt16} (hunit : unit.toNat = c.toNat) : IsUnitRow c [unit]
  | pair {high low : UInt16} (hhigh : isHighSurrogate high = true)
      (hlow : isLowSurrogate low = true)
      (hcode : c.toNat = 0x10000 + (high.toNat - 0xD800) * 0x400 + (low.toNat - 0xDC00)) :
      IsUnitRow c [high, low]

lemma isUnitRow_charUnits (c : Char) : IsUnitRow c (charUnits c) := by
  have hvalid : c.toNat < 0xD800 ∨ 0xDFFF < c.toNat ∧ c.toNat < 0x110000 := c.valid
  rw [charUnits]
  split
  · refine .single ?_
    simp only [Nat.toUInt16_eq, UInt16.toNat_ofNat']
    omega
  · have hhigh : (0xD800 + (c.toNat - 0x10000) / 0x400).toUInt16.toNat =
        0xD800 + (c.toNat - 0x10000) / 0x400 := by
      simp only [Nat.toUInt16_eq, UInt16.toNat_ofNat']
      omega
    have hlow : (0xDC00 + (c.toNat - 0x10000) % 0x400).toUInt16.toNat =
        0xDC00 + (c.toNat - 0x10000) % 0x400 := by
      simp only [Nat.toUInt16_eq, UInt16.toNat_ofNat']
      omega
    refine .pair ?_ ?_ ?_
    · rw [isHighSurrogate_iff, hhigh]
      omega
    · rw [isLowSurrogate_iff, hlow]
      omega
    · rw [hhigh, hlow]
      omega

/-- **The hash of the compiler**. The hash of a row of units is the numeral in base thirty-six of
what the signed loop ends with, read without a sign; the loop stays within thirty-two bits. The
hash of a text is that of the units of its characters, of which those beyond the first plane have
two. -/
theorem hashUnits_reads_signedHash :
    (∀ units, (-2 ^ 31 ≤ signedHash units ∧ signedHash units < 2 ^ 31) ∧
      IsNumeral 36 (unsignedReading (signedHash units)) (hashUnits units)) ∧
      ∀ text : Text, ∃ rows, List.Forall₂ IsUnitRow text rows ∧
        hashText text = hashUnits rows.flatten := by
  refine ⟨fun units => ⟨signedHash_bounds units, ?_⟩, fun text => ⟨text.map charUnits, ?_, ?_⟩⟩
  · rw [signedHash_eq_toInt, unsignedReading_toInt]
    exact isNumeral_numeral (by decide) (by decide) _
  · exact List.forall₂_map_right_iff.mpr
      (List.forall₂_same.mpr fun c _ => isUnitRow_charUnits c)
  · rw [hashText, Text.units, List.flatMap_def]

/-- A high surrogate on its own, and with its partner, which makes a character of it. -/
example : hashUnits [0xD83D] = "39nq" ∧ hashUnits [0xD83D, 0xDE00] = "2tvco" ∧
    hashText "😀" = "2tvco" := by
  decide +kernel

end HotReload
