import Mathlib.Data.List.DropRight
import HotReload.Proofs.Lines
import HotReload.Proofs.Pieces
/-!
A word that takes the place of a pattern in a text of several lines.

* `mem_of_mem_replaceFrom`, `head?_replace`, `getLast?_replaceFrom`: what a text that is replaced in
  holds, and how it begins and ends.
* `IsWordFor`: there is no blank in the pattern, and the word is kept on a line. Then stripping a
  line, cutting a text into lines and leaving out the empty ones may come before or after.
* `IsWordFor.replace_flatten`: so may joining the lines.
-/

namespace HotReload.Text

/-! ### The ends of a text -/

variable {pattern replacement : Text}

/-- What is in a text after a replacement has been there before, or in the replacement. -/
lemma mem_of_mem_replaceFrom {c : Char} {text : Text} {skip : ℕ}
    (h : c ∈ replaceFrom pattern replacement skip text) : c ∈ text ∨ c ∈ replacement := by
  induction text generalizing skip with
  | nil => exact absurd h (by simp [replaceFrom])
  | cons d text ih =>
      cases skip with
      | succ skip => exact (ih h).imp_left (List.mem_cons_of_mem d)
      | zero =>
          rw [replaceFrom] at h
          split at h
          · rcases List.mem_append.mp h with hmem | hmem
            · exact .inr hmem
            · exact (ih hmem).imp_left (List.mem_cons_of_mem d)
          · rcases List.mem_cons.mp h with rfl | hmem
            · exact .inl List.mem_cons_self
            · exact (ih hmem).imp_left (List.mem_cons_of_mem d)

lemma replace_cons_ne_nil (hreplacement : replacement ≠ []) (c : Char) (text : Text) :
    replace pattern replacement (c :: text) ≠ [] := by
  rw [replace, replaceFrom]
  split
  · exact List.append_ne_nil_of_left_ne_nil hreplacement _
  · exact List.cons_ne_nil _ _

/-- A text that is replaced in begins as before, or as the replacement. -/
lemma head?_replace (hreplacement : replacement ≠ []) (text : Text) :
    (replace pattern replacement text).head? = text.head? ∨
      (replace pattern replacement text).head? = replacement.head? := by
  cases text with
  | nil => exact .inl rfl
  | cons c text =>
      rw [replace, replaceFrom]
      split
      · obtain ⟨d, rest, rfl⟩ := List.exists_cons_of_ne_nil hreplacement
        exact .inr rfl
      · exact .inl rfl

/-- It ends as before, or as the replacement. -/
lemma getLast?_replaceFrom (hreplacement : replacement ≠ []) {text : Text} {skip : ℕ} {c : Char}
    (h : (replaceFrom pattern replacement skip text).getLast? = some c) :
    text.getLast? = some c ∨ replacement.getLast? = some c := by
  induction text generalizing skip with
  | nil => exact absurd h (by simp [replaceFrom])
  | cons d text ih =>
      have hbehind (skip : ℕ)
          (hc : (replaceFrom pattern replacement skip text).getLast? = some c) :
          (d :: text).getLast? = some c ∨ replacement.getLast? = some c := by
        refine (ih hc).imp_left fun hlast => ?_
        rw [List.getLast?_cons, hlast]
        rfl
      cases skip with
      | succ skip => exact hbehind skip h
      | zero =>
          rw [replaceFrom] at h
          split at h
          -- the end is in what is replaced further on, or it is the end of this replacement
          · rw [List.getLast?_append] at h
            rcases Option.or_eq_some_iff.mp h with hc | ⟨-, hc⟩
            · exact hbehind _ hc
            · exact .inr hc
          · cases text with
            | nil => exact .inl h
            | cons e text =>
                refine hbehind 0 ?_
                have hne : replaceFrom pattern replacement 0 (e :: text) ≠ [] :=
                  replace_cons_ne_nil hreplacement e text
                rwa [List.getLast?_cons_of_ne_nil hne] at h

lemma replace_cons_of_notMem (hpattern : pattern ≠ []) {c : Char} (hc : c ∉ pattern) (text : Text) :
    replace pattern replacement (c :: text) = c :: replace pattern replacement text :=
  replace_append_cons hpattern replacement hc [] text

lemma replace_concat_of_notMem (hpattern : pattern ≠ []) {c : Char} (hc : c ∉ pattern)
    (text : Text) :
    replace pattern replacement (text ++ [c]) = replace pattern replacement text ++ [c] :=
  replace_append_cons hpattern replacement hc text []

/-! ### Lines -/

/-- Between lines, or at their ends, a pattern without blanks gives way to a replacement that begins
and ends with none. -/
structure IsWordFor (pattern replacement : Text) : Prop where
  nonempty : pattern ≠ []
  blanks : ∀ c ∈ pattern, isBlank c = false
  trimmed : IsTrimmed replacement

namespace IsWordFor

variable (h : IsWordFor pattern replacement)

include h

lemma notMem_of_isBlank {c : Char} (hc : isBlank c = true) : c ∉ pattern := fun hmem => by
  rw [h.blanks c hmem] at hc
  exact absurd hc (by decide)

lemma head?_replace {c : Char} (hc : isBlank c = false) (text : Text) :
    (replace pattern replacement (c :: text)).head?.any isBlank = false := by
  rcases Text.head?_replace h.trimmed.nonempty (c :: text) with hhead | hhead
  · rw [hhead]
    exact hc
  · rw [hhead]
    exact h.trimmed.head

lemma replace_dropWhile (text : Text) :
    (replace pattern replacement text).dropWhile isBlank =
      replace pattern replacement (text.dropWhile isBlank) := by
  induction text with
  | nil => rfl
  | cons c text ih =>
      by_cases hc : isBlank c = true
      · rw [replace_cons_of_notMem h.nonempty (h.notMem_of_isBlank hc),
          List.dropWhile_cons_of_pos hc, List.dropWhile_cons_of_pos hc, ih]
      · rw [List.dropWhile_cons_of_neg hc]
        have hhead := h.head?_replace (Bool.eq_false_iff.mpr hc) text
        cases hreplace : replace pattern replacement (c :: text) with
        | nil => rfl
        | cons d rest =>
            rw [hreplace] at hhead
            exact List.dropWhile_cons_of_neg (Bool.eq_false_iff.mp hhead)

lemma replace_stripRight (text : Text) :
    stripRight (replace pattern replacement text) =
      replace pattern replacement (stripRight text) := by
  show (replace pattern replacement text).rdropWhile isBlank =
    replace pattern replacement (text.rdropWhile isBlank)
  induction text using List.reverseRecOn with
  | nil => rfl
  | append_singleton text c ih =>
      by_cases hc : isBlank c = true
      · rw [replace_concat_of_notMem h.nonempty (h.notMem_of_isBlank hc),
          List.rdropWhile_concat_pos _ _ _ hc, List.rdropWhile_concat_pos _ _ _ hc, ih]
      · rw [List.rdropWhile_concat_neg _ _ _ hc, List.rdropWhile_eq_self_iff]
        intro hne hblank
        rcases getLast?_replaceFrom h.trimmed.nonempty (List.getLast?_eq_some_getLast hne)
          with hlast | hlast
        · rw [List.getLast?_concat] at hlast
          exact hc (Option.some.inj hlast ▸ hblank)
        · have htrimmed := h.trimmed.last
          rw [hlast] at htrimmed
          exact absurd hblank (Bool.eq_false_iff.mp htrimmed)

lemma strip_replace (line : Text) :
    strip (replace pattern replacement line) = replace pattern replacement (strip line) := by
  rw [strip, h.replace_dropWhile, h.replace_stripRight, strip]

lemma split_replace (text : Text) :
    split '\n' (replace pattern replacement text) =
      (split '\n' text).map (replace pattern replacement) := by
  have hsplit {piece : Text} (hpiece : '\n' ∉ piece) :
      split '\n' (replace pattern replacement piece) = [replace pattern replacement piece] :=
    split_of_notMem fun hmem =>
      (mem_of_mem_replaceFrom hmem).elim hpiece h.trimmed.newline
  induction text using pieceInduction '\n' with
  | last piece hpiece => rw [hsplit hpiece, split_of_notMem hpiece, List.map_singleton]
  | more piece rest hpiece ih =>
      rw [replace_append_cons h.nonempty replacement (h.notMem_of_isBlank (by decide)),
        split_append_cons, split_append_cons, List.map_append, ih, hsplit hpiece,
        split_of_notMem hpiece, List.map_singleton]

lemma keptLines_replace (text : Text) :
    keptLines (replace pattern replacement text) =
      (keptLines text).map (replace pattern replacement) := by
  have hstrip : strip ∘ replace pattern replacement = replace pattern replacement ∘ strip :=
    funext h.strip_replace
  have hkept : (fun line : Text => !line.isEmpty) ∘ replace pattern replacement =
      fun line => !line.isEmpty := by
    funext line
    cases line with
    | nil => rfl
    | cons c line =>
        have hne : replace pattern replacement (c :: line) ≠ [] :=
          replace_cons_ne_nil h.trimmed.nonempty c line
        simpa using hne
  rw [keptLines, keptLines, h.split_replace, List.map_map, hstrip, ← List.map_map,
    List.filter_map, hkept]

/-- The word may take the place of the pattern before or after the lines are joined. -/
theorem replace_flatten (text : Text) :
    replace pattern replacement text.flatten = (replace pattern replacement text).flatten := by
  rw [flatten_eq_join, flatten_eq_join, h.keptLines_replace,
    replace_join h.nonempty replacement (h.notMem_of_isBlank (by decide))]

end IsWordFor

end HotReload.Text
