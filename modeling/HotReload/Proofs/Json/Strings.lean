import HotReload.Json.Reader
import HotReload.Proofs.Numerals
/-!
JSON strings: what is written for a row of units is read back as these units.

* `jsonUnit_cases`: the three ways to write a unit: after a backslash, as itself, or by
  four digits.
* `readStringBody_jsonUnit_append`: each of them is undone.
* `readString_jsonString_append`: a whole string, with any text behind it.
-/

namespace HotReload

/-! ### Units by their digits -/

/-- The four digits of a unit. -/
lemma padded_four (n : Nat) (h : n < 0x10000) :
    padded 16 4 n = [digitChar (n / 16 / 16 / 16), digitChar (n / 16 / 16 % 16),
      digitChar (n / 16 % 16), digitChar (n % 16)] := by
  rw [padded_succ (by decide) (by decide), padded_succ (by decide) (by decide),
    padded_succ (by decide) (by decide), padded_one (by omega)]
  rfl

/-- The digits of a unit are read back. -/
lemma unitOfDigits?_digitChar (u : UInt16) :
    unitOfDigits? (digitChar (u.toNat / 16 / 16 / 16)) (digitChar (u.toNat / 16 / 16 % 16))
      (digitChar (u.toNat / 16 % 16)) (digitChar (u.toNat % 16)) = some u := by
  have hlt := u.toNat_lt
  have hvalue : ((u.toNat / 16 / 16 / 16 * 16 + u.toNat / 16 / 16 % 16) * 16 +
      u.toNat / 16 % 16) * 16 + u.toNat % 16 = u.toNat := by
    omega
  rw [unitOfDigits?, hexDigit?_digitChar (by omega), hexDigit?_digitChar (by omega),
    hexDigit?_digitChar (by omega), hexDigit?_digitChar (by omega)]
  simp only [Option.bind_eq_bind, Option.bind_some, Option.pure_def, hvalue]
  simp

/-! ### The three ways to write a unit -/

/-- The letters that stand for units after a backslash. -/
lemma jsonUnit_cases (u : UInt16) :
    (∃ letter, letter ≠ 'u' ∧ escapeLetter? letter = some u ∧ 0x20 ≤ letter.toNat ∧
      letter.toNat ≤ 0x7E ∧ jsonUnit u = ['\\', letter]) ∨
    (u ≠ 0x22 ∧ u ≠ 0x5C ∧ 0x20 ≤ u.toNat ∧ u.toNat ≤ 0x7E ∧
      jsonUnit u = [Char.ofNat u.toNat]) ∨
    jsonUnit u = '\\' :: 'u' :: padded 16 4 u.toNat := by
  rw [jsonUnit]
  split
  · next h => exact .inl ⟨'"', by subst h; decide⟩
  split
  · next h => exact .inl ⟨'\\', by subst h; decide⟩
  split
  · next h => exact .inl ⟨'n', by subst h; decide⟩
  split
  · next h => exact .inl ⟨'r', by subst h; decide⟩
  split
  · next h => exact .inl ⟨'t', by subst h; decide⟩
  split
  · next h => exact .inl ⟨'b', by subst h; decide⟩
  split
  · next h => exact .inl ⟨'f', by subst h; decide⟩
  split
  · next hquote hslash _ _ _ _ _ hrange =>
      rw [UInt16.le_iff_toNat_le, UInt16.le_iff_toNat_le] at hrange
      exact .inr (.inl ⟨hquote, hslash, hrange.1, hrange.2, rfl⟩)
  · exact .inr (.inr rfl)

lemma toNat_ofNat_of_plain {n : Nat} (h : n ≤ 0x7E) : (Char.ofNat n).toNat = n := by
  have : ∀ n ≤ 0x7E, (Char.ofNat n).toNat = n := by decide
  exact this n h

lemma readStringBody_quote (opening rest : Text) :
    readStringBody opening ('"' :: rest) = .ok ([], rest) := by
  rw [readStringBody.eq_def]
  rfl

/-- A character that needs no escape stands for its units. -/
lemma readStringBody_plain (opening rest : Text) {c : Char} (hquote : c ≠ '"')
    (hslash : c ≠ '\\') (hlow : 0x20 ≤ c.toNat) :
    readStringBody opening (c :: rest) =
      (readStringBody opening rest).withUnits (charUnits c) := by
  rw [readStringBody.eq_def]
  simp only [if_neg hquote, if_neg hslash, if_neg (show ¬ c.toNat < 0x20 by omega)]

/-- A unit that is written is read back. An escape by digits needs a character behind it. -/
lemma readStringBody_jsonUnit_append (opening : Text) (u : UInt16) {rest : Text}
    (hrest : rest ≠ []) :
    readStringBody opening (jsonUnit u ++ rest) =
      (readStringBody opening rest).withUnits [u] := by
  -- a unit is written as a short escape, as itself, or as an escape of four digits
  rcases jsonUnit_cases u with ⟨letter, hne, hletter, -, -, hu⟩ | ⟨hquote, hslash, hlow, hhigh, hu⟩ | hu
  · rw [hu, List.cons_append, List.singleton_append, readStringBody]
    simp only [Char.reduceEq, if_true, if_false, if_neg hne, hletter]
  · have hchar := toNat_ofNat_of_plain hhigh
    have hquote' : Char.ofNat u.toNat ≠ '"' := by
      intro h
      rw [h] at hchar
      exact hquote (UInt16.toNat_inj.mp hchar.symm)
    have hslash' : Char.ofNat u.toNat ≠ '\\' := by
      intro h
      rw [h] at hchar
      exact hslash (UInt16.toNat_inj.mp hchar.symm)
    have hunits : charUnits (Char.ofNat u.toNat) = [u] := by
      rw [charUnits, hchar, if_pos (by omega)]
      simp
    rw [hu, List.singleton_append, readStringBody_plain _ _ hquote' hslash' (by omega), hunits]
  · obtain ⟨c, tail, rfl⟩ := List.exists_cons_of_ne_nil hrest
    rw [hu, padded_four _ u.toNat_lt]
    simp only [List.cons_append, List.nil_append, readStringBody, Char.reduceEq, if_true,
      if_false, unitOfDigits?_digitChar]

/-- The units of a string are read back up to its closing quote. -/
lemma readStringBody_flatMap_append (opening : Text) (units : List UInt16) (rest : Text) :
    readStringBody opening (units.flatMap jsonUnit ++ '"' :: rest) = .ok (units, rest) := by
  induction units with
  | nil => exact readStringBody_quote opening rest
  | cons u units ih =>
      rw [List.flatMap_cons, List.append_assoc,
        readStringBody_jsonUnit_append opening u (by simp), ih]
      rfl

/-- A string that is written is read back. -/
theorem readString_jsonString_append (units : List UInt16) (rest : Text) :
    readString (jsonString units ++ rest) = .ok (units, rest) := by
  have htext : (jsonString units ++ rest).drop 1 = units.flatMap jsonUnit ++ '"' :: rest := by
    simp [jsonString]
  rw [readString, htext, readStringBody_flatMap_append]

end HotReload
