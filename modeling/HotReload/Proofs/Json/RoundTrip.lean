import HotReload.Proofs.Doubles.Special
import HotReload.Proofs.Doubles.Text
import HotReload.Proofs.Entries
import HotReload.Proofs.Json.Plain
/-!
JSON values: what is written is read back, with blanks or without them.

* `JsonLayout.IsLegible`: blanks are all that stands behind commas and colons.
* `Json.Readable`: the keys of every object differ, and there is one double that is no number.
  `Json.Canonical`: besides, every double is finite.
* `Json.Fits`: a value keeps within limits at a level.
* `readValue_write_append`: a value that is written is read back up to any text with which no
  number goes on. It goes with `readItems_writeItems_append` and
  `readEntries_writeEntries_append`.
* `readJsonWithin_write_layout`: so it is with a whole text, and `readJsonWithin_write` says it for
  a canonical value without blanks.
-/

namespace HotReload

/-- Blanks are all that stands behind the commas and colons of a layout. -/
structure JsonLayout.IsLegible (layout : JsonLayout) (itemBlanks keyBlanks : Text) : Prop where
  itemGap : layout.itemGap = ',' :: itemBlanks
  keyGap : layout.keyGap = ':' :: keyBlanks
  item : ∀ c ∈ itemBlanks, c = ' '
  key : ∀ c ∈ keyBlanks, c = ' '

lemma isLegible_compact : JsonLayout.compact.IsLegible [] [] :=
  ⟨rfl, rfl, List.forall_mem_nil _, List.forall_mem_nil _⟩

lemma isLegible_spaced : JsonLayout.spaced.IsLegible [' '] [' '] :=
  ⟨rfl, rfl, List.forall_mem_singleton.mpr rfl, List.forall_mem_singleton.mpr rfl⟩

namespace Json

mutual

/-- No object has a key twice, and a double that is no number has the usual bits. -/
def Readable : Json → Prop
  | .float x => x.isNaN = true → x = .nan
  | .arr items => ReadableItems items
  | .obj entries => (entries.map Prod.fst).Nodup ∧ ReadableEntries entries
  | _ => True

/-- It is so with every item. -/
def ReadableItems : List Json → Prop
  | [] => True
  | item :: items => item.Readable ∧ ReadableItems items

/-- It is so with the value of every entry. -/
def ReadableEntries : List (List UInt16 × Json) → Prop
  | [] => True
  | (_, value) :: entries => value.Readable ∧ ReadableEntries entries

end

mutual

/-- No object has a key twice, and every double is finite. -/
def Canonical : Json → Prop
  | .float x => x.isFinite = true
  | .arr items => CanonicalItems items
  | .obj entries => (entries.map Prod.fst).Nodup ∧ CanonicalEntries entries
  | _ => True

/-- It is so with every item. -/
def CanonicalItems : List Json → Prop
  | [] => True
  | item :: items => item.Canonical ∧ CanonicalItems items

/-- It is so with the value of every entry. -/
def CanonicalEntries : List (List UInt16 × Json) → Prop
  | [] => True
  | (_, value) :: entries => value.Canonical ∧ CanonicalEntries entries

end

mutual

lemma Canonical.readable : (j : Json) → j.Canonical → j.Readable
  | .null, _ | .bool _, _ | .int _, _ | .str _, _ => trivial
  | .float x, h => fun hnan => by
      have hfinite : x.isFinite = true := h
      rw [Double.isNaN, hfinite] at hnan
      exact absurd hnan Bool.false_ne_true
  | .arr items, h => CanonicalItems.readable items h
  | .obj entries, h => ⟨h.1, CanonicalEntries.readable entries h.2⟩

lemma CanonicalItems.readable : (items : List Json) → CanonicalItems items → ReadableItems items
  | [], _ => trivial
  | item :: items, h => ⟨Canonical.readable item h.1, CanonicalItems.readable items h.2⟩

lemma CanonicalEntries.readable :
    (entries : List (List UInt16 × Json)) → CanonicalEntries entries → ReadableEntries entries
  | [], _ => trivial
  | (_, value) :: entries, h =>
      ⟨Canonical.readable value h.1, CanonicalEntries.readable entries h.2⟩

end

mutual

/-- A value with so many lists and objects around it keeps within the limits. -/
def Fits (limits : JsonLimits) (levels : Nat) : Json → Prop
  | .int n => JsonLimits.exceeded limits.digits (decimal n.natAbs).length = false
  | .arr items =>
      JsonLimits.exceeded limits.levels (levels + 1) = false ∧ FitItems limits (levels + 1) items
  | .obj entries =>
      JsonLimits.exceeded limits.levels (levels + 1) = false ∧
        FitEntries limits (levels + 1) entries
  | _ => True

/-- Every item keeps within the limits. -/
def FitItems (limits : JsonLimits) (levels : Nat) : List Json → Prop
  | [] => True
  | item :: items => item.Fits limits levels ∧ FitItems limits levels items

/-- The value of every entry keeps within the limits. -/
def FitEntries (limits : JsonLimits) (levels : Nat) : List (List UInt16 × Json) → Prop
  | [] => True
  | (_, value) :: entries => value.Fits limits levels ∧ FitEntries limits levels entries

end

lemma readableItems_iff {items : List Json} : ReadableItems items ↔ ∀ j ∈ items, j.Readable := by
  induction items with
  | nil => simp [ReadableItems]
  | cons item items ih => rw [ReadableItems, ih, List.forall_mem_cons]

lemma readableEntries_iff {entries : List (List UInt16 × Json)} :
    ReadableEntries entries ↔ ∀ e ∈ entries, e.2.Readable := by
  induction entries with
  | nil => simp [ReadableEntries]
  | cons e entries ih => rw [ReadableEntries, ih, List.forall_mem_cons]

lemma canonicalEntries_iff {entries : List (List UInt16 × Json)} :
    CanonicalEntries entries ↔ ∀ e ∈ entries, e.2.Canonical := by
  induction entries with
  | nil => simp [CanonicalEntries]
  | cons e entries ih => rw [CanonicalEntries, ih, List.forall_mem_cons]

lemma fitEntries_iff {limits : JsonLimits} {levels : Nat} {entries : List (List UInt16 × Json)} :
    FitEntries limits levels entries ↔ ∀ e ∈ entries, e.2.Fits limits levels := by
  induction entries with
  | nil => simp [FitEntries]
  | cons e entries ih => rw [FitEntries, ih, List.forall_mem_cons]

mutual

/-- Where there are no limits, every value keeps within them. -/
lemma fits_none (levels : Nat) : (j : Json) → j.Fits .none levels
  | .null | .bool _ | .float _ | .str _ => trivial
  | .int _ => rfl
  | .arr items => ⟨rfl, fitItems_none (levels + 1) items⟩
  | .obj entries => ⟨rfl, fitEntries_none (levels + 1) entries⟩

lemma fitItems_none (levels : Nat) : (items : List Json) → FitItems .none levels items
  | [] => trivial
  | item :: items => ⟨fits_none levels item, fitItems_none levels items⟩

lemma fitEntries_none (levels : Nat) :
    (entries : List (List UInt16 × Json)) → FitEntries .none levels entries
  | [] => trivial
  | (_, value) :: entries => ⟨fits_none levels value, fitEntries_none levels entries⟩

end

end Json

variable {limits : JsonLimits} {levels fuel : Nat} {layout : JsonLayout}
  {itemBlanks keyBlanks : Text}

/-! ### The first character of a value -/

lemma skipJsonBlanks_cons {c : Char} (h : ¬(c = ' ' ∨ c = '\t' ∨ c = '\n' ∨ c = '\r'))
    (rest : Text) : skipJsonBlanks (c :: rest) = c :: rest := by
  rw [skipJsonBlanks, if_neg h]

lemma skipJsonBlanks_append {blanks : Text} (h : ∀ c ∈ blanks, c = ' ') (rest : Text) :
    skipJsonBlanks (blanks ++ rest) = skipJsonBlanks rest := by
  induction blanks with
  | nil => rfl
  | cons c blanks ih =>
      rw [List.forall_mem_cons] at h
      rw [List.cons_append, skipJsonBlanks, if_pos (.inl h.1), ih h.2]

/-- No value begins with a blank or with a closing bracket. -/
lemma readValue_cons_ne_ok {c : Char}
    (h : c = ' ' ∨ c = '\t' ∨ c = '\n' ∨ c = '\r' ∨ c = ']') (rest : Text) (found : Json × Text) :
    readValue limits levels fuel (c :: rest) ≠ .ok found := by
  cases fuel with
  | zero => simp [readValue]
  | succ fuel =>
      rcases h with rfl | rfl | rfl | rfl | rfl <;>
        simp [readValue, readWord, jsonWords, readNumber, readMinus, readWhole, spanDigits,
          decimalDigit?]

lemma exists_digit_of_readWhole {text : Text} {found : List Nat × Text}
    (h : readWhole text = some found) :
    ∃ c rest, text = c :: rest ∧ '0' ≤ c ∧ c ≤ '9' := by
  rw [readWhole.eq_def] at h
  split at h
  · next rest => exact ⟨'0', rest, rfl, by decide, by decide⟩
  · cases text with
    | nil => simp [spanDigits] at h
    | cons c rest =>
        refine ⟨c, rest, rfl, ?_⟩
        by_contra hc
        simp [spanDigits, decimalDigit?, hc] at h

/-- A number begins with a digit, behind a minus sign or not. -/
lemma exists_digit_of_readNumber {text : Text} {found : Json × Text}
    (h : readNumber limits text = .ok found) :
    ∃ c rest, (text = c :: rest ∨ text = '-' :: c :: rest) ∧ '0' ≤ c ∧ c ≤ '9' := by
  rw [readNumber] at h
  cases hwhole : readWhole (readMinus text).2 with
  | none => simp [hwhole] at h
  | some whole =>
      obtain ⟨c, rest, htext, hdigit⟩ := exists_digit_of_readWhole hwhole
      refine ⟨c, rest, ?_, hdigit⟩
      rw [readMinus.eq_def] at htext
      split at htext
      · exact .inr (by rw [← htext])
      · exact .inl htext

/-- What is read as a number is read so as a value. -/
lemma readValue_of_readNumber {text : Text} {found : Json × Text}
    (h : readNumber limits text = .ok found) :
    readValue limits levels (fuel + 1) text = .ok found := by
  obtain ⟨c, rest, htext, hc⟩ := exists_digit_of_readNumber h
  have hne (d : Char) (hd : ¬('0' ≤ d ∧ d ≤ '9')) : d ≠ c := by
    rintro rfl
    exact hd hc
  have hword : readWord text = none := by
    rcases htext with rfl | rfl <;>
      simp [readWord, jsonWords, hne 'n' (by decide), hne 't' (by decide), hne 'f' (by decide),
        hne 'N' (by decide), hne 'I' (by decide), hne '-' (by decide)]
  rcases htext with rfl | rfl
  · rw [readValue]
    simp [(hne '"' (by decide)).symm, (hne '{' (by decide)).symm, (hne '[' (by decide)).symm,
      hword, h]
  · rw [readValue]
    simp [hword, h]

/-! ### What is written -/

lemma readValue_of_readWord {c : Char} {rest : Text} {found : Json × Text}
    (hquote : c ≠ '"') (hbrace : c ≠ '{') (hbracket : c ≠ '[')
    (h : readWord (c :: rest) = some found) :
    readValue limits levels (fuel + 1) (c :: rest) = .ok found := by
  simp [readValue, hquote, hbrace, hbracket, h]

lemma readValue_null (rest : Text) :
    readValue limits levels (fuel + 1) ("null" ++ rest) = .ok (.null, rest) :=
  readValue_of_readWord (by decide) (by decide) (by decide) rfl

lemma readValue_true (rest : Text) :
    readValue limits levels (fuel + 1) ("true" ++ rest) = .ok (.bool true, rest) :=
  readValue_of_readWord (by decide) (by decide) (by decide) rfl

lemma readValue_false (rest : Text) :
    readValue limits levels (fuel + 1) ("false" ++ rest) = .ok (.bool false, rest) :=
  readValue_of_readWord (by decide) (by decide) (by decide) rfl

lemma readValue_nan (rest : Text) :
    readValue limits levels (fuel + 1) ("NaN" ++ rest) = .ok (.float .nan, rest) :=
  readValue_of_readWord (by decide) (by decide) (by decide) rfl

lemma readValue_infinity (negative : Bool) (rest : Text) :
    readValue limits levels (fuel + 1)
        ((if negative then ("-Infinity" : Text) else "Infinity") ++ rest) =
      .ok (.float (.infinity negative), rest) := by
  cases negative
  · exact readValue_of_readWord (by decide) (by decide) (by decide) rfl
  · exact readValue_of_readWord (by decide) (by decide) (by decide) rfl

/-- The names of doubles that are not finite. -/
lemma readValue_special {x : Double} (hfinite : x.isFinite = false)
    (hreadable : x.isNaN = true → x = .nan) (rest : Text) :
    readValue limits levels (fuel + 1) (jsonNumber x ++ rest) = .ok (.float x, rest) := by
  cases hnan : x.isNaN with
  | true =>
      rw [jsonNumber, if_pos hnan, readValue_nan, hreadable hnan]
  | false =>
      rw [jsonNumber, if_neg (by simp [hnan]), if_neg (by simp [hfinite]), readValue_infinity,
        Double.infinity_isNegative hfinite hnan]

lemma readValue_str (units : List UInt16) (rest : Text) :
    readValue limits levels (fuel + 1) (jsonString units ++ rest) = .ok (.str units, rest) := by
  have hread := readString_jsonString_append units rest
  rw [jsonString, List.cons_append] at hread ⊢
  simp only [readValue, if_true, hread, Except.map]

/-- A value begins with no blank. -/
lemma skipJsonBlanks_of_readValue {text : Text} {found : Json × Text}
    (h : readValue limits levels fuel text = .ok found) : skipJsonBlanks text = text := by
  cases text with
  | nil => rfl
  | cons c text =>
      refine skipJsonBlanks_cons (fun hc => ?_) text
      exact readValue_cons_ne_ok (by tauto) text found h

/-! ### One item, one entry -/

lemma exists_readValue_of_readItems {text rest : Text} {items : List Json}
    (h : readItems limits levels fuel text = .ok (items, rest)) :
    ∃ fuel found, readValue limits levels fuel text = .ok found := by
  cases fuel with
  | zero => exact absurd h (by simp [readItems])
  | succ fuel =>
      cases hnext : readValue limits levels fuel text with
      | error fault => simp [readItems, hnext] at h
      | ok found => exact ⟨fuel, found, hnext⟩

/-- The last item of a list. -/
lemma readItems_last {text rest : Text} {item : Json}
    (hitem : readValue limits levels fuel text = .ok (item, ']' :: rest)) :
    readItems limits levels (fuel + 1) text = .ok ([item], rest) := by
  rw [readItems, hitem]
  rfl

/-- An item before others. -/
lemma readItems_cons {text blanks more rest : Text} {item : Json} {items : List Json}
    (hblanks : ∀ c ∈ blanks, c = ' ')
    (hitem : readValue limits levels fuel text = .ok (item, ',' :: (blanks ++ more)))
    (hmore : readItems limits levels fuel more = .ok (items, rest)) :
    readItems limits levels (fuel + 1) text = .ok (item :: items, rest) := by
  obtain ⟨_, _, hnext⟩ := exists_readValue_of_readItems hmore
  have hcomma : skipJsonBlanks (',' :: (blanks ++ more)) = ',' :: (blanks ++ more) :=
    skipJsonBlanks_cons (by decide) _
  rw [readItems, hitem]
  simp only [hcomma, skipJsonBlanks_append hblanks, skipJsonBlanks_of_readValue hnext, hmore,
    Except.map]

/-- A list of at least one item. -/
lemma readValue_arr {inner rest : Text} {items : List Json}
    (hlevels : JsonLimits.exceeded limits.levels (levels + 1) = false)
    (hitems : readItems limits (levels + 1) fuel inner = .ok (items, rest)) :
    readValue limits levels (fuel + 1) ('[' :: inner) = .ok (.arr items, rest) := by
  obtain ⟨_, found, hnext⟩ := exists_readValue_of_readItems hitems
  have hbracket (more : Text) : inner ≠ ']' :: more := by
    rintro rfl
    exact readValue_cons_ne_ok (by simp) more found hnext
  rw [readValue]
  simp only [hlevels, skipJsonBlanks_of_readValue hnext, Bool.false_eq_true, and_false, if_false,
    Char.reduceEq, if_true, hitems, Except.map]

/-- The last entry of an object. -/
lemma readEntries_last {key : List UInt16} {value : Json} {keyBlanks text rest : Text}
    (hkeyBlanks : ∀ c ∈ keyBlanks, c = ' ') (before : List (List UInt16 × Json))
    (hvalue : readValue limits levels fuel text = .ok (value, '}' :: rest)) :
    readEntries limits levels (fuel + 1) before
        (jsonString key ++ ':' :: (keyBlanks ++ text)) =
      .ok (Json.putEntry key value before, rest) := by
  have hkey := readString_jsonString_append key (':' :: (keyBlanks ++ text))
  have hcolon : skipJsonBlanks (':' :: (keyBlanks ++ text)) = ':' :: (keyBlanks ++ text) :=
    skipJsonBlanks_cons (by decide) _
  rw [jsonString, List.cons_append] at hkey ⊢
  rw [readEntries]
  simp only [hkey, hcolon, skipJsonBlanks_append hkeyBlanks, skipJsonBlanks_of_readValue hvalue,
    hvalue]
  rfl

/-- An entry before others. -/
lemma readEntries_cons {key next : List UInt16} {value : Json} {keyBlanks blanks text more : Text}
    (hkeyBlanks : ∀ c ∈ keyBlanks, c = ' ') (hblanks : ∀ c ∈ blanks, c = ' ')
    (before : List (List UInt16 × Json))
    (hvalue : readValue limits levels fuel text =
      .ok (value, ',' :: (blanks ++ (jsonString next ++ more)))) :
    readEntries limits levels (fuel + 1) before
        (jsonString key ++ ':' :: (keyBlanks ++ text)) =
      readEntries limits levels fuel (Json.putEntry key value before)
        (jsonString next ++ more) := by
  have hkey := readString_jsonString_append key (':' :: (keyBlanks ++ text))
  have hcolon : skipJsonBlanks (':' :: (keyBlanks ++ text)) = ':' :: (keyBlanks ++ text) :=
    skipJsonBlanks_cons (by decide) _
  have hcomma : skipJsonBlanks (',' :: (blanks ++ (jsonString next ++ more))) =
      ',' :: (blanks ++ (jsonString next ++ more)) :=
    skipJsonBlanks_cons (by decide) _
  have hquote : skipJsonBlanks (jsonString next ++ more) = jsonString next ++ more := by
    rw [jsonString, List.cons_append]
    exact skipJsonBlanks_cons (by decide) _
  rw [jsonString, List.cons_append] at hkey
  rw [jsonString, List.cons_append, readEntries]
  simp only [hkey, hcolon, skipJsonBlanks_append hkeyBlanks, skipJsonBlanks_of_readValue hvalue,
    hvalue, hcomma, skipJsonBlanks_append hblanks, hquote]

/-- An object of at least one entry. -/
lemma readValue_obj {inner rest : Text} {entries : List (List UInt16 × Json)}
    (hlevels : JsonLimits.exceeded limits.levels (levels + 1) = false)
    (hentries : readEntries limits (levels + 1) fuel [] ('"' :: inner) = .ok (entries, rest)) :
    readValue limits levels (fuel + 1) ('{' :: '"' :: inner) = .ok (.obj entries, rest) := by
  have hquote : skipJsonBlanks ('"' :: inner) = '"' :: inner :=
    skipJsonBlanks_cons (by decide) inner
  rw [readValue]
  simp only [hlevels, hquote, Bool.false_eq_true, and_false, if_false, Char.reduceEq, if_true,
    hentries, Except.map]
  rfl

/-! ### Whole values -/

lemma notMem_of_nodup {key : List UInt16} {value : Json}
    {before entries : List (List UInt16 × Json)}
    (h : ((before ++ (key, value) :: entries).map Prod.fst).Nodup) :
    key ∉ before.map Prod.fst := by
  rw [List.map_append, List.map_cons] at h
  exact fun hkey => List.disjoint_of_nodup_append h hkey List.mem_cons_self

section

variable (hlayout : layout.IsLegible itemBlanks keyBlanks)

include hlayout

lemma writeItems_legible_cons (item next : Json) (items : List Json) :
    Json.writeItems layout (item :: next :: items) =
      item.write layout ++ ',' :: (itemBlanks ++ Json.writeItems layout (next :: items)) := by
  rw [writeItems_cons_cons, hlayout.itemGap, List.append_assoc]
  rfl

lemma writeEntries_legible_last (key : List UInt16) (value : Json) :
    Json.writeEntries layout [(key, value)] =
      jsonString key ++ ':' :: (keyBlanks ++ value.write layout) := by
  rw [Json.writeEntries, hlayout.keyGap, List.append_assoc]
  rfl

lemma writeEntries_legible_cons (key : List UInt16) (value : Json) (next : List UInt16 × Json)
    (entries : List (List UInt16 × Json)) :
    Json.writeEntries layout ((key, value) :: next :: entries) =
      jsonString key ++ ':' :: (keyBlanks ++ (value.write layout ++
        ',' :: (itemBlanks ++ Json.writeEntries layout (next :: entries)))) := by
  rw [writeEntries_cons_cons, hlayout.keyGap, hlayout.itemGap]
  simp only [List.append_assoc, List.cons_append]

lemma exists_writeEntries_eq (key : List UInt16) (value : Json)
    (entries : List (List UInt16 × Json)) :
    ∃ more, Json.writeEntries layout ((key, value) :: entries) = jsonString key ++ more := by
  cases entries with
  | nil => exact ⟨_, writeEntries_legible_last hlayout key value⟩
  | cons next entries => exact ⟨_, writeEntries_legible_cons hlayout key value next entries⟩

end

/-! The steps that a text is read with are counted by its characters: two for each. -/

mutual

/-- A value that is written is read back up to any text with which no number goes on. -/
theorem readValue_write_append (hlayout : layout.IsLegible itemBlanks keyBlanks)
    (limits : JsonLimits) :
    (j : Json) → (levels fuel : Nat) → j.Readable → j.Fits limits levels →
      2 * (j.write layout).length ≤ fuel → (rest : Text) → EndsNumber rest →
      readValue limits levels (fuel + 1) (j.write layout ++ rest) = .ok (j, rest)
  | .null, _, _, _, _, _, rest, _ => by
      rw [Json.write]
      exact readValue_null rest
  | .bool true, _, _, _, _, _, rest, _ => by
      rw [Json.write]
      exact readValue_true rest
  | .bool false, _, _, _, _, _, rest, _ => by
      rw [Json.write]
      exact readValue_false rest
  | .int n, _, _, _, hfits, _, rest, hrest => by
      rw [Json.write]
      exact readValue_of_readNumber (readNumber_signedDecimal_append limits n hrest hfits)
  | .float x, _, _, hreadable, _, _, rest, hrest => by
      rw [Json.write]
      cases hfinite : x.isFinite with
      | false => exact readValue_special hfinite hreadable rest
      | true =>
          have htext : jsonNumber x = x.text := by simp [jsonNumber, Double.isNaN, hfinite]
          rw [htext]
          exact readValue_of_readNumber (Double.readNumber_text_append limits hfinite hrest)
  | .str units, _, _, _, _, _, rest, _ => by
      rw [Json.write]
      exact readValue_str units rest
  | .arr [], levels, fuel, _, hfits, _, rest, _ => by
      simp [Json.write, Json.writeItems, readValue, skipJsonBlanks, hfits.1]
  -- each item takes steps for its own length, and two more for the brackets
  | .arr (item :: items), levels, fuel, hreadable, hfits, hfuel, rest, _ => by
      rw [Json.write, List.length_cons, List.length_append, List.length_singleton] at hfuel
      obtain ⟨steps, rfl⟩ : ∃ steps, fuel = steps + 2 := ⟨fuel - 2, by omega⟩
      rw [Json.write, List.cons_append, List.append_assoc, List.singleton_append]
      exact readValue_arr hfits.1 (readItems_writeItems_append hlayout limits (item :: items)
        (by simp) (levels + 1) steps hreadable hfits.2 (by omega) rest)
  | .obj [], levels, fuel, _, hfits, _, rest, _ => by
      simp [Json.write, Json.writeEntries, readValue, skipJsonBlanks, hfits.1]
  | .obj ((key, value) :: entries), levels, fuel, hreadable, hfits, hfuel, rest, _ => by
      rw [Json.write, List.length_cons, List.length_append, List.length_singleton] at hfuel
      obtain ⟨steps, rfl⟩ : ∃ steps, fuel = steps + 2 := ⟨fuel - 2, by omega⟩
      have hentries := readEntries_writeEntries_append hlayout limits ((key, value) :: entries)
        (by simp) (levels + 1) steps hreadable.2 hfits.2 (by omega) [] hreadable.1 rest
      -- the first key is brought to the front, as the brace is read together with it
      obtain ⟨inner, hinner⟩ := exists_writeEntries_eq hlayout key value entries
      rw [Json.write, List.cons_append, List.append_assoc, List.singleton_append]
      rw [hinner] at hentries ⊢
      exact readValue_obj hfits.1 hentries

/-- Items that are written are read back up to the bracket that closes them. -/
theorem readItems_writeItems_append (hlayout : layout.IsLegible itemBlanks keyBlanks)
    (limits : JsonLimits) :
    (items : List Json) → items ≠ [] → (levels fuel : Nat) → Json.ReadableItems items →
      Json.FitItems limits levels items → 2 * (Json.writeItems layout items).length ≤ fuel →
      (rest : Text) →
      readItems limits levels (fuel + 2) (Json.writeItems layout items ++ ']' :: rest) =
        .ok (items, rest)
  | [], hitems, _, _, _, _, _, _ => absurd rfl hitems
  | [item], _, levels, fuel, hreadable, hfits, hfuel, rest => by
      rw [Json.writeItems] at hfuel ⊢
      exact readItems_last (readValue_write_append hlayout limits item levels fuel hreadable.1
        hfits.1 hfuel (']' :: rest) (endsNumber_cons (by simp) rest))
  | item :: next :: items, _, levels, fuel, hreadable, hfits, hfuel, rest => by
      rw [writeItems_legible_cons hlayout] at hfuel ⊢
      rw [List.length_append, List.length_cons, List.length_append] at hfuel
      -- one step goes to this item, and the others go on with one step less
      obtain ⟨steps, rfl⟩ : ∃ steps, fuel = steps + 1 := ⟨fuel - 1, by omega⟩
      have hmore := readItems_writeItems_append hlayout limits (next :: items) (by simp) levels
        steps hreadable.2 hfits.2 (by omega) rest
      rw [List.append_assoc, List.cons_append, List.append_assoc]
      exact readItems_cons hlayout.item (readValue_write_append hlayout limits item levels
        (steps + 1) hreadable.1 hfits.1 (by omega) _ (endsNumber_cons (by simp) _)) hmore

/-- Entries that are written are read back up to the brace that closes them, behind those with
other keys. -/
theorem readEntries_writeEntries_append (hlayout : layout.IsLegible itemBlanks keyBlanks)
    (limits : JsonLimits) :
    (entries : List (List UInt16 × Json)) → entries ≠ [] → (levels fuel : Nat) →
      Json.ReadableEntries entries → Json.FitEntries limits levels entries →
      2 * (Json.writeEntries layout entries).length ≤ fuel →
      (before : List (List UInt16 × Json)) → ((before ++ entries).map Prod.fst).Nodup →
      (rest : Text) →
      readEntries limits levels (fuel + 2) before
        (Json.writeEntries layout entries ++ '}' :: rest) = .ok (before ++ entries, rest)
  | [], hentries, _, _, _, _, _, _, _, _ => absurd rfl hentries
  | [(key, value)], _, levels, fuel, hreadable, hfits, hfuel, before, hkeys, rest => by
      have hput : Json.putEntry key value before = before ++ [(key, value)] :=
        putBy_of_notMem (notMem_of_nodup hkeys) value
      rw [writeEntries_legible_last hlayout] at hfuel ⊢
      rw [List.length_append, List.length_cons, List.length_append] at hfuel
      have hvalue := readValue_write_append hlayout limits value levels fuel hreadable.1 hfits.1
        (by omega) ('}' :: rest) (endsNumber_cons (by simp) rest)
      rw [List.append_assoc, List.cons_append, List.append_assoc,
        readEntries_last hlayout.key before hvalue, hput]
  | (key, value) :: (next, nextValue) :: entries, _, levels, fuel, hreadable, hfits, hfuel,
      before, hkeys, rest => by
      have hput : Json.putEntry key value before = before ++ [(key, value)] :=
        putBy_of_notMem (notMem_of_nodup hkeys) value
      rw [writeEntries_legible_cons hlayout] at hfuel ⊢
      simp only [List.length_append, List.length_cons] at hfuel
      -- one step goes to this entry, and the others go on with one step less
      obtain ⟨steps, rfl⟩ : ∃ steps, fuel = steps + 1 := ⟨fuel - 1, by omega⟩
      have hmore := readEntries_writeEntries_append hlayout limits ((next, nextValue) :: entries)
        (by simp) levels steps hreadable.2 hfits.2 (by omega) (before ++ [(key, value)])
        (by rwa [List.append_assoc]) rest
      -- the value ends at the comma, behind which the next key stands
      obtain ⟨more, hnext⟩ := exists_writeEntries_eq hlayout next nextValue entries
      rw [hnext] at hmore ⊢
      have hvalue := readValue_write_append hlayout limits value levels (steps + 1) hreadable.1
        hfits.1 (by omega) (',' :: (itemBlanks ++ (jsonString next ++ (more ++ '}' :: rest))))
        (endsNumber_cons (by simp) _)
      rw [List.append_assoc] at hmore
      simp only [List.append_assoc, List.cons_append]
      rw [readEntries_cons hlayout.key hlayout.item before hvalue, hput, hmore, List.append_assoc]
      rfl

end

lemma JsonLayout.IsLegible.isPlain_write (hlayout : layout.IsLegible itemBlanks keyBlanks)
    (j : Json) : IsPlain (j.write layout) := by
  have hblanks {blanks : Text} (h : ∀ c ∈ blanks, c = ' ') : IsPlain blanks := fun c hc => by
    rw [h c hc]
    decide
  refine HotReload.isPlain_write ?_ ?_ j
  · rw [hlayout.itemGap]
    exact isPlain_cons.mpr ⟨by decide, hblanks hlayout.item⟩
  · rw [hlayout.keyGap]
    exact isPlain_cons.mpr ⟨by decide, hblanks hlayout.key⟩

/-- A whole text that is written for a value is read back. -/
theorem readJsonWithin_write_layout (hlayout : layout.IsLegible itemBlanks keyBlanks) {j : Json}
    (hreadable : j.Readable) (hfits : j.Fits limits 0) :
    readJsonWithin limits (j.write layout) = .ok j := by
  have hread := readValue_write_append hlayout limits j 0 (2 * (j.write layout).length + 1)
    hreadable hfits (by omega) [] endsNumber_nil
  rw [List.append_nil] at hread
  have hmark : (j.write layout).head? ≠ some '\uFEFF' := by
    intro hhead
    exact absurd (hlayout.isPlain_write j _ (List.mem_of_mem_head? hhead)) (by decide)
  rw [readJsonWithin, if_neg hmark, skipJsonBlanks_of_readValue hread, hread]
  rfl

/-- A canonical value that is written without blanks is read back. -/
theorem readJsonWithin_write {j : Json} (hcanonical : j.Canonical) (hfits : j.Fits limits 0) :
    readJsonWithin limits (j.write .compact) = .ok j :=
  readJsonWithin_write_layout isLegible_compact (Json.Canonical.readable j hcanonical) hfits

end HotReload
