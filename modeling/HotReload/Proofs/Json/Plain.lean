import HotReload.Proofs.Json.Strings
/-!
JSON in plain characters: what is written for a value stays between the blank and the tilde.

* `IsPlain`: every character of a text is printable ASCII.
* `isPlain_text`, `isPlain_jsonString`: doubles and strings.
* `isPlain_write`: whole values, with plain gaps between the parts.
-/

namespace HotReload

/-- Every character of the text is printable ASCII. -/
def IsPlain (text : Text) : Prop := ∀ c ∈ text, 0x20 ≤ c.toNat ∧ c.toNat ≤ 0x7E

instance (text : Text) : Decidable (IsPlain text) :=
  List.decidableBAll (fun c : Char => 0x20 ≤ c.toNat ∧ c.toNat ≤ 0x7E) text

lemma isPlain_cons {c : Char} {text : Text} :
    IsPlain (c :: text) ↔ (0x20 ≤ c.toNat ∧ c.toNat ≤ 0x7E) ∧ IsPlain text :=
  List.forall_mem_cons

lemma isPlain_append {text more : Text} :
    IsPlain (text ++ more) ↔ IsPlain text ∧ IsPlain more :=
  List.forall_mem_append

lemma IsPlain.append {text more : Text} (h : IsPlain text) (hmore : IsPlain more) :
    IsPlain (text ++ more) :=
  isPlain_append.mpr ⟨h, hmore⟩

lemma isPlain_replicate {c : Char} (hc : 0x20 ≤ c.toNat ∧ c.toNat ≤ 0x7E) (n : Nat) :
    IsPlain (List.replicate n c) := by
  intro d hd
  rw [List.eq_of_mem_replicate hd]
  exact hc

/-! ### Numbers -/

section Numbers

variable {base : Nat}

lemma isPlain_numeral (hlow : 2 ≤ base) (hhigh : base ≤ 36) (n : Nat) :
    IsPlain (numeral base n) := by
  have hdigit : ∀ d < 36, 0x20 ≤ (digitChar d).toNat ∧ (digitChar d).toNat ≤ 0x7E := by decide
  rw [numeral_eq_map_bigDigits hlow]
  intro c hc
  obtain ⟨d, hd, rfl⟩ := List.mem_map.mp hc
  exact hdigit d ((bigDigits_lt hlow hd).trans_le hhigh)

lemma isPlain_padded (hlow : 2 ≤ base) (hhigh : base ≤ 36) (width n : Nat) :
    IsPlain (padded base width n) :=
  (isPlain_replicate (by decide) _).append (isPlain_numeral hlow hhigh n)

end Numbers

lemma isPlain_decimal (n : Nat) : IsPlain (decimal n) :=
  isPlain_numeral (by decide) (by decide) n

lemma isPlain_signedDecimal (n : Int) : IsPlain (signedDecimal n) := by
  cases n with
  | ofNat n => exact isPlain_decimal n
  | negSucc n => exact isPlain_cons.mpr ⟨by decide, isPlain_decimal (n + 1)⟩

lemma isPlain_placed {digits : Text} (h : IsPlain digits) (point : Int) :
    IsPlain (Double.placed digits point) := by
  have hzeros (n : Nat) : IsPlain (List.replicate n '0') := isPlain_replicate (by decide) n
  have htake (n : Nat) : IsPlain (digits.take n) := fun c hc => h c (List.mem_of_mem_take hc)
  have hdrop (n : Nat) : IsPlain (digits.drop n) := fun c hc => h c (List.mem_of_mem_drop hc)
  rw [Double.placed]
  split
  · split
    · exact (IsPlain.append (by decide) (hzeros _)).append h
    · split
      · exact (h.append (hzeros _)).append (by decide)
      · exact ((htake _).append (by decide)).append (hdrop _)
  · have hfraction : IsPlain (if digits.length = 1 then [] else '.' :: digits.drop 1) := by
      split
      · decide
      · exact isPlain_cons.mpr ⟨by decide, hdrop 1⟩
    have hmark : IsPlain ['e', if point - 1 < 0 then '-' else '+'] := by
      split <;> decide
    exact (((htake 1).append hfraction).append hmark).append
      (isPlain_padded (by decide) (by decide) 2 _)

lemma isPlain_finiteText (x : Double) : IsPlain x.finiteText := by
  have hsign : IsPlain (if x.isNegative then ['-'] else []) := by
    split <;> decide
  refine hsign.append ?_
  split
  · decide
  · exact isPlain_placed (isPlain_decimal _) _

lemma isPlain_jsonNumber (x : Double) : IsPlain (jsonNumber x) := by
  rw [jsonNumber]
  split
  · decide
  · next hnan =>
      split
      · next hfinite =>
          rw [Double.text, if_neg hnan, if_pos hfinite]
          exact isPlain_finiteText x
      · split <;> decide

/-! ### Strings -/

lemma isPlain_jsonUnit (u : UInt16) : IsPlain (jsonUnit u) := by
  rcases jsonUnit_cases u with ⟨letter, -, -, hlow, hhigh, hu⟩ | ⟨-, -, hlow, hhigh, hu⟩ | hu
  · rw [hu]
    exact isPlain_cons.mpr ⟨by decide, isPlain_cons.mpr ⟨⟨hlow, hhigh⟩, by decide⟩⟩
  · rw [hu]
    refine isPlain_cons.mpr ⟨?_, by decide⟩
    rw [toNat_ofNat_of_plain hhigh]
    exact ⟨hlow, hhigh⟩
  · rw [hu]
    exact isPlain_cons.mpr ⟨by decide, isPlain_cons.mpr
      ⟨by decide, isPlain_padded (by decide) (by decide) 4 _⟩⟩

lemma isPlain_jsonString (units : List UInt16) : IsPlain (jsonString units) := by
  refine isPlain_cons.mpr ⟨by decide, IsPlain.append ?_ (by decide)⟩
  intro c hc
  obtain ⟨u, -, hu⟩ := List.mem_flatMap.mp hc
  exact isPlain_jsonUnit u c hu

/-! ### Values -/

section Values

variable {layout : JsonLayout}

lemma writeItems_cons_cons (item next : Json) (items : List Json) :
    Json.writeItems layout (item :: next :: items) =
      item.write layout ++ layout.itemGap ++ Json.writeItems layout (next :: items) := by
  rw [Json.writeItems]
  exact List.cons_ne_nil next items

lemma writeEntries_cons_cons (key : List UInt16) (value : Json) (next : List UInt16 × Json)
    (entries : List (List UInt16 × Json)) :
    Json.writeEntries layout ((key, value) :: next :: entries) =
      jsonString key ++ layout.keyGap ++ value.write layout ++ layout.itemGap ++
        Json.writeEntries layout (next :: entries) := by
  rw [Json.writeEntries]
  exact List.cons_ne_nil next entries

mutual

/-- What is written for a value is plain if the gaps are. -/
theorem isPlain_write (hitem : IsPlain layout.itemGap) (hkey : IsPlain layout.keyGap) :
    (j : Json) → IsPlain (j.write layout)
  | .null => by rw [Json.write]; decide
  | .bool true => by rw [Json.write]; decide
  | .bool false => by rw [Json.write]; decide
  | .int n => by rw [Json.write]; exact isPlain_signedDecimal n
  | .float x => by rw [Json.write]; exact isPlain_jsonNumber x
  | .str units => by rw [Json.write]; exact isPlain_jsonString units
  | .arr items => by
      rw [Json.write]
      exact isPlain_cons.mpr ⟨by decide, (isPlain_writeItems hitem hkey items).append (by decide)⟩
  | .obj entries => by
      rw [Json.write]
      exact isPlain_cons.mpr
        ⟨by decide, (isPlain_writeEntries hitem hkey entries).append (by decide)⟩

lemma isPlain_writeItems (hitem : IsPlain layout.itemGap) (hkey : IsPlain layout.keyGap) :
    (items : List Json) → IsPlain (Json.writeItems layout items)
  | [] => by rw [Json.writeItems]; decide
  | [item] => by rw [Json.writeItems]; exact isPlain_write hitem hkey item
  | item :: next :: items => by
      rw [writeItems_cons_cons]
      exact ((isPlain_write hitem hkey item).append hitem).append
        (isPlain_writeItems hitem hkey (next :: items))

lemma isPlain_writeEntries (hitem : IsPlain layout.itemGap) (hkey : IsPlain layout.keyGap) :
    (entries : List (List UInt16 × Json)) → IsPlain (Json.writeEntries layout entries)
  | [] => by rw [Json.writeEntries]; decide
  | [(key, value)] => by
      rw [Json.writeEntries]
      exact ((isPlain_jsonString key).append hkey).append (isPlain_write hitem hkey value)
  | (key, value) :: next :: entries => by
      rw [writeEntries_cons_cons]
      exact ((((isPlain_jsonString key).append hkey).append
        (isPlain_write hitem hkey value)).append hitem).append
          (isPlain_writeEntries hitem hkey (next :: entries))

end

end Values

end HotReload
