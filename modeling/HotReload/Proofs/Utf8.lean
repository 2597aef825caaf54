import Mathlib.Logic.Basic
import Mathlib.Tactic.Lemma
import HotReload.Text.Utf8
/-!
UTF-8 read and written.

* `Utf8Sequence` lists the sequences of bytes that stand for one character, with its code point.
* `decodeUtf8From_append`, `utf8EncodeChar_ofNat`: such a sequence is read as its character, and
  is what its character is written as. `utf8Sequence_utf8EncodeChar`: every character has one.
* `textOfUtf8_eq_ok_iff`: bytes are read as a text exactly if they are what it is written as.
-/

namespace HotReload

lemma isTailByte_iff {b : UInt8} : isTailByte b = true ↔ 0x80 ≤ b.toNat ∧ b.toNat ≤ 0xBF := by
  simp [isTailByte, UInt8.le_iff_toNat_le]

lemma isSecondByte_iff {a b : UInt8} :
    isSecondByte a b = true ↔ (0x80 ≤ b.toNat ∧ b.toNat ≤ 0xBF) ∧
      (a.toNat = 0xE0 → 0xA0 ≤ b.toNat) ∧ (a.toNat = 0xED → b.toNat < 0xA0) ∧
      (a.toNat = 0xF0 → 0x90 ≤ b.toNat) ∧ (a.toNat = 0xF4 → b.toNat < 0x90) := by
  simp only [isSecondByte, Bool.and_eq_true, isTailByte_iff, Bool.or_eq_true, bne_iff_ne, ne_eq,
    decide_eq_true_eq, UInt8.le_iff_toNat_le, UInt8.lt_iff_toNat_lt, ← UInt8.toNat_inj,
    UInt8.toNat_ofNat]
  omega

lemma tailBits_eq (b : UInt8) : tailBits b = b.toNat - 0x80 := rfl

/-- The bytes are the sequence of the character with this code point. -/
inductive Utf8Sequence : List UInt8 → Nat → Prop
  | one {a : UInt8} (ha : a.toNat < 0x80) : Utf8Sequence [a] a.toNat
  | two {a b : UInt8} (ha : 0xC2 ≤ a.toNat ∧ a.toNat < 0xE0) (hb : isTailByte b = true) :
      Utf8Sequence [a, b] ((a.toNat - 0xC0) * 0x40 + tailBits b)
  | three {a b c : UInt8} (ha : 0xE0 ≤ a.toNat ∧ a.toNat < 0xF0) (hb : isSecondByte a b = true)
      (hc : isTailByte c = true) :
      Utf8Sequence [a, b, c] ((a.toNat - 0xE0) * 0x1000 + tailBits b * 0x40 + tailBits c)
  | four {a b c d : UInt8} (ha : 0xF0 ≤ a.toNat ∧ a.toNat < 0xF5) (hb : isSecondByte a b = true)
      (hc : isTailByte c = true) (hd : isTailByte d = true) :
      Utf8Sequence [a, b, c, d]
        ((a.toNat - 0xF0) * 0x40000 + tailBits b * 0x1000 + tailBits c * 0x40 + tailBits d)

/-- A sequence is read as its character. -/
lemma decodeUtf8From_append {bytes : List UInt8} {code : Nat} (h : Utf8Sequence bytes code)
    (position : Nat) (rest : List UInt8) :
    decodeUtf8From position (bytes ++ rest) =
      (decodeUtf8From (position + bytes.length) rest).map (Char.ofNat code :: ·) := by
  have below (a : UInt8) (n : Nat) (hn : n < 256) : a < UInt8.ofNat n ↔ a.toNat < n := by
    rw [UInt8.lt_iff_toNat_lt, UInt8.toNat_ofNat_of_lt' hn]
  -- the first byte says how many follow: each comparison of the reader is settled by its range
  cases h with
  | @one a ha =>
      have h80 : a < 0x80 := (below a 0x80 (by decide)).mpr ha
      rw [List.singleton_append, decodeUtf8From.eq_def]
      simp only [if_pos h80]
      rfl
  | @two a b ha hb =>
      have h80 : ¬ a < 0x80 := (below a 0x80 (by decide)).not.mpr (by omega)
      have hC2 : ¬ a < 0xC2 := (below a 0xC2 (by decide)).not.mpr (by omega)
      have hE0 : a < 0xE0 := (below a 0xE0 (by decide)).mpr (by omega)
      rw [List.cons_append, decodeUtf8From.eq_def]
      simp only [if_neg h80, if_neg hC2, if_pos hE0, if_pos hb, List.singleton_append]
      rfl
  | @three a b c ha hb hc =>
      have h80 : ¬ a < 0x80 := (below a 0x80 (by decide)).not.mpr (by omega)
      have hC2 : ¬ a < 0xC2 := (below a 0xC2 (by decide)).not.mpr (by omega)
      have hE0 : ¬ a < 0xE0 := (below a 0xE0 (by decide)).not.mpr (by omega)
      have hF0 : a < 0xF0 := (below a 0xF0 (by decide)).mpr (by omega)
      rw [List.cons_append, decodeUtf8From.eq_def]
      simp only [if_neg h80, if_neg hC2, if_neg hE0, if_pos hF0, if_pos hb, if_pos hc,
        List.cons_append, List.nil_append]
      rfl
  | @four a b c d ha hb hc hd =>
      have h80 : ¬ a < 0x80 := (below a 0x80 (by decide)).not.mpr (by omega)
      have hC2 : ¬ a < 0xC2 := (below a 0xC2 (by decide)).not.mpr (by omega)
      have hE0 : ¬ a < 0xE0 := (below a 0xE0 (by decide)).not.mpr (by omega)
      have hF0 : ¬ a < 0xF0 := (below a 0xF0 (by decide)).not.mpr (by omega)
      have hF5 : a < 0xF5 := (below a 0xF5 (by decide)).mpr (by omega)
      rw [List.cons_append, decodeUtf8From.eq_def]
      simp only [if_neg h80, if_neg hC2, if_neg hE0, if_neg hF0, if_pos hF5, if_pos hb, if_pos hc,
        if_pos hd, List.cons_append, List.nil_append]
      rfl

/-- A sequence is what its character is written as. -/
lemma utf8EncodeChar_ofNat {bytes : List UInt8} {code : Nat} (h : Utf8Sequence bytes code) :
    String.utf8EncodeChar (Char.ofNat code) = bytes := by
  -- the code point is no surrogate, as the second byte after 0xED is small
  have hval {n : Nat} (hn : n < 0xD800 ∨ 0xDFFF < n ∧ n < 0x110000) :
      (Char.ofNat n).val.toNat = n := by
    have hvalid : n.isValidChar := hn
    rw [Char.ofNat, dif_pos hvalid]
    rfl
  have hbyte {a : UInt8} {n : Nat} (hn : n = a.toNat) : UInt8.ofNat n = a := by
    rw [hn, UInt8.ofNat_toNat]
  cases h with
  | @one a ha =>
      have hcode := hval (n := a.toNat) (by omega)
      simp only [String.utf8EncodeChar, hcode]
      rw [if_pos (by omega), hbyte rfl]
  | @two a b ha hb =>
      have hb := isTailByte_iff.mp hb
      have hcode := hval (n := (a.toNat - 0xC0) * 0x40 + (b.toNat - 0x80)) (by omega)
      simp only [String.utf8EncodeChar, tailBits_eq, hcode]
      rw [if_neg (by omega), if_pos (by omega), List.cons.injEq, List.cons.injEq]
      exact ⟨hbyte (by omega), hbyte (by omega), rfl⟩
  | @three a b c ha hb hc =>
      have hb := isSecondByte_iff.mp hb
      have hc := isTailByte_iff.mp hc
      have hcode := hval (n := (a.toNat - 0xE0) * 0x1000 + (b.toNat - 0x80) * 0x40 +
        (c.toNat - 0x80)) (by omega)
      simp only [String.utf8EncodeChar, tailBits_eq, hcode]
      rw [if_neg (by omega), if_neg (by omega), if_pos (by omega), List.cons.injEq,
        List.cons.injEq, List.cons.injEq]
      exact ⟨hbyte (by omega), hbyte (by omega), hbyte (by omega), rfl⟩
  | @four a b c d ha hb hc hd =>
      have hb := isSecondByte_iff.mp hb
      have hc := isTailByte_iff.mp hc
      have hd := isTailByte_iff.mp hd
      have hcode := hval (n := (a.toNat - 0xF0) * 0x40000 + (b.toNat - 0x80) * 0x1000 +
        (c.toNat - 0x80) * 0x40 + (d.toNat - 0x80)) (by omega)
      simp only [String.utf8EncodeChar, tailBits_eq, hcode]
      rw [if_neg (by omega), if_neg (by omega), if_neg (by omega), List.cons.injEq,
        List.cons.injEq, List.cons.injEq, List.cons.injEq]
      exact ⟨hbyte (by omega), hbyte (by omega), hbyte (by omega), hbyte (by omega), rfl⟩

/-- Every character is written as its sequence. -/
lemma utf8Sequence_utf8EncodeChar (c : Char) :
    Utf8Sequence (String.utf8EncodeChar c) c.toNat := by
  have hvalid : c.val.toNat < 0xD800 ∨ 0xDFFF < c.val.toNat ∧ c.val.toNat < 0x110000 := c.valid
  have hbyte {n : Nat} (hn : n < 256) : (UInt8.ofNat n).toNat = n := UInt8.toNat_ofNat_of_lt' hn
  simp only [String.utf8EncodeChar, Char.toNat]
  generalize c.val.toNat = v at *
  -- each form shows the code point in digits of six bits, which are put together again
  split
  · next h1 =>
      have hseq : Utf8Sequence [UInt8.ofNat v] (UInt8.ofNat v).toNat :=
        .one (by rw [hbyte (by omega)]; omega)
      rwa [hbyte (by omega)] at hseq
  · split
    · next h1 h2 =>
        have ha : (UInt8.ofNat (v / 64 % 32 + 192)).toNat = v / 64 % 32 + 192 := hbyte (by omega)
        have hb : (UInt8.ofNat (v % 64 + 128)).toNat = v % 64 + 128 := hbyte (by omega)
        have hcode : v = ((UInt8.ofNat (v / 64 % 32 + 192)).toNat - 0xC0) * 0x40 +
            tailBits (UInt8.ofNat (v % 64 + 128)) := by
          simp only [tailBits_eq, ha, hb]
          omega
        have hseq := @Utf8Sequence.two (UInt8.ofNat (v / 64 % 32 + 192))
          (UInt8.ofNat (v % 64 + 128)) (by omega) (isTailByte_iff.mpr (by omega))
        rwa [← hcode] at hseq
    · split
      · next h1 h2 h3 =>
          have ha : (UInt8.ofNat (v / 4096 % 16 + 224)).toNat = v / 4096 % 16 + 224 :=
            hbyte (by omega)
          have hb : (UInt8.ofNat (v / 64 % 64 + 128)).toNat = v / 64 % 64 + 128 := hbyte (by omega)
          have hc : (UInt8.ofNat (v % 64 + 128)).toNat = v % 64 + 128 := hbyte (by omega)
          have hcode : v = ((UInt8.ofNat (v / 4096 % 16 + 224)).toNat - 0xE0) * 0x1000 +
              tailBits (UInt8.ofNat (v / 64 % 64 + 128)) * 0x40 +
              tailBits (UInt8.ofNat (v % 64 + 128)) := by
            simp only [tailBits_eq, ha, hb, hc]
            omega
          have hseq := @Utf8Sequence.three (UInt8.ofNat (v / 4096 % 16 + 224))
            (UInt8.ofNat (v / 64 % 64 + 128)) (UInt8.ofNat (v % 64 + 128)) (by omega)
            (isSecondByte_iff.mpr (by omega)) (isTailByte_iff.mpr (by omega))
          rwa [← hcode] at hseq
      · next h1 h2 h3 =>
          have ha : (UInt8.ofNat (v / 262144 % 8 + 240)).toNat = v / 262144 % 8 + 240 :=
            hbyte (by omega)
          have hb : (UInt8.ofNat (v / 4096 % 64 + 128)).toNat = v / 4096 % 64 + 128 :=
            hbyte (by omega)
          have hc : (UInt8.ofNat (v / 64 % 64 + 128)).toNat = v / 64 % 64 + 128 := hbyte (by omega)
          have hd : (UInt8.ofNat (v % 64 + 128)).toNat = v % 64 + 128 := hbyte (by omega)
          have hcode : v = ((UInt8.ofNat (v / 262144 % 8 + 240)).toNat - 0xF0) * 0x40000 +
              tailBits (UInt8.ofNat (v / 4096 % 64 + 128)) * 0x1000 +
              tailBits (UInt8.ofNat (v / 64 % 64 + 128)) * 0x40 +
              tailBits (UInt8.ofNat (v % 64 + 128)) := by
            simp only [tailBits_eq, ha, hb, hc, hd]
            omega
          have hseq := @Utf8Sequence.four (UInt8.ofNat (v / 262144 % 8 + 240))
            (UInt8.ofNat (v / 4096 % 64 + 128)) (UInt8.ofNat (v / 64 % 64 + 128))
            (UInt8.ofNat (v % 64 + 128)) (by omega) (isSecondByte_iff.mpr (by omega))
            (isTailByte_iff.mpr (by omega)) (isTailByte_iff.mpr (by omega))
          rwa [← hcode] at hseq

/-! ### Texts -/

/-- What a text is written as is read as the text. -/
lemma decodeUtf8From_toUtf8 (position : Nat) (text : Text) :
    decodeUtf8From position text.toUtf8 = .ok text := by
  induction text generalizing position with
  | nil => rfl
  | cons c text ih =>
      rw [Text.toUtf8, List.flatMap_cons,
        decodeUtf8From_append (utf8Sequence_utf8EncodeChar c), Char.ofNat_toNat]
      exact congrArg (Except.map (c :: ·)) (ih _)

/-- Bytes that are read begin with a sequence. -/
lemma exists_utf8Sequence {position : Nat} {a : UInt8} {bytes : List UInt8} {text : Text}
    (h : decodeUtf8From position (a :: bytes) = .ok text) :
    ∃ first code rest, Utf8Sequence first code ∧ a :: bytes = first ++ rest := by
  have below (n : Nat) (hn : n < 256) : a < UInt8.ofNat n ↔ a.toNat < n := by
    rw [UInt8.lt_iff_toNat_lt, UInt8.toNat_ofNat_of_lt' hn]
  -- comparisons of bytes become comparisons of numbers, so that the ranges add up
  have h80 : a < 0x80 ↔ a.toNat < 0x80 := below 0x80 (by decide)
  have hC2 : a < 0xC2 ↔ a.toNat < 0xC2 := below 0xC2 (by decide)
  have hE0 : a < 0xE0 ↔ a.toNat < 0xE0 := below 0xE0 (by decide)
  have hF0 : a < 0xF0 ↔ a.toNat < 0xF0 := below 0xF0 (by decide)
  have hF5 : a < 0xF5 ↔ a.toNat < 0xF5 := below 0xF5 (by decide)
  rw [decodeUtf8From.eq_def] at h
  simp only [h80, hC2, hE0, hF0, hF5] at h
  split at h
  · next h1 => exact ⟨[a], _, bytes, .one h1, rfl⟩
  split at h
  · cases h
  split at h
  · next h1 h2 h3 =>
      split at h
      · cases h
      · next b rest =>
          split at h
          · next hb => exact ⟨[a, b], _, rest, .two (by omega) hb, rfl⟩
          · cases h
  split at h
  · next h1 h2 h3 h4 =>
      split at h
      · cases h
      · next b rest =>
          split at h
          · next hb =>
              split at h
              · cases h
              · next c rest =>
                  split at h
                  · next hc => exact ⟨[a, b, c], _, rest, .three (by omega) hb hc, rfl⟩
                  · cases h
          · cases h
  split at h
  · next h1 h2 h3 h4 h5 =>
      split at h
      · cases h
      · next b rest =>
          split at h
          · next hb =>
              split at h
              · cases h
              · next c rest =>
                  split at h
                  · next hc =>
                      split at h
                      · cases h
                      · next d rest =>
                          split at h
                          · next hd => exact ⟨[a, b, c, d], _, rest, .four (by omega) hb hc hd, rfl⟩
                          · cases h
                  · cases h
          · cases h
  · cases h

/-- What bytes are read as is written as the bytes. -/
lemma toUtf8_of_decodeUtf8From {position : Nat} {bytes : List UInt8} {text : Text}
    (h : decodeUtf8From position bytes = .ok text) : text.toUtf8 = bytes := by
  induction hn : bytes.length using Nat.strongRecOn generalizing position bytes text with
  | _ n ih =>
    cases bytes with
    | nil =>
        obtain rfl : [] = text := Except.ok.inj h
        rfl
    | cons a bytes =>
        obtain ⟨first, code, rest, hseq, hbytes⟩ := exists_utf8Sequence h
        have hlength : rest.length < n := by
          have := congrArg List.length hbytes
          cases hseq <;> simp at this hn <;> omega
        rw [hbytes, decodeUtf8From_append hseq] at h
        cases hrest : decodeUtf8From (position + first.length) rest with
        | error e =>
            rw [hrest] at h
            exact nomatch h
        | ok more =>
            rw [hrest] at h
            obtain rfl : Char.ofNat code :: more = text := Except.ok.inj h
            rw [hbytes, Text.toUtf8, List.flatMap_cons, utf8EncodeChar_ofNat hseq]
            exact congrArg (first ++ ·) (ih _ hlength hrest rfl)

/-- **UTF-8**. Bytes are read as a text exactly if they are what the text is written as. -/
theorem textOfUtf8_eq_ok_iff {bytes : List UInt8} {text : Text} :
    textOfUtf8 bytes = .ok text ↔ text.toUtf8 = bytes := by
  constructor
  · exact toUtf8_of_decodeUtf8From
  · rintro rfl
    exact decodeUtf8From_toUtf8 0 text

lemma toUtf8_append (text more : Text) : (text ++ more).toUtf8 = text.toUtf8 ++ more.toUtf8 := by
  rw [Text.toUtf8, List.flatMap_append]
  rfl

end HotReload
