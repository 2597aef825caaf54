import HotReload.Proofs.WordRuns
/-!
The removal of a word from a text.

* `AreRuns`: a row of runs of word characters and of single other characters, no two runs side by
  side. `areRuns_iff`: every text is cut in this way once.
* `mem_tokens_of_boundaries`: a word that stands between boundaries is one of the runs.
* `areRuns_filter`: without the runs equal to a word, the others are still cut as before, for on
  both sides of a run there is no word character.
* `removeWord_deletes_runs`: what is left after a removal.
-/

namespace HotReload

open Text

/-! ### How a text is cut -/

/-- A text is cut into words and single other characters, and no two words stand side by side, so
that each is as long as can be. -/
structure AreRuns (runs : List Text) (text : Text) : Prop where
  flatten : runs.flatten = text
  each : ∀ run ∈ runs, IsWord run ∨ ∃ c, run = [c] ∧ isWordChar c = false
  apart : runs.IsChain fun a b => ¬ (IsWord a ∧ IsWord b)

/-- Before runs that come behind a word, there is a boundary. -/
lemma startsWithWord_flatten {run : Text} {runs : List Text} (hrun : IsWord run)
    (heach : ∀ r ∈ runs, IsWord r ∨ ∃ c, r = [c] ∧ isWordChar c = false)
    (hapart : (run :: runs).IsChain fun a b => ¬ (IsWord a ∧ IsWord b)) :
    startsWithWord runs.flatten = false := by
  cases runs with
  | nil => rfl
  | cons next runs =>
      have hnext : ¬ IsWord next := fun h => (List.isChain_cons_cons.mp hapart).1 ⟨hrun, h⟩
      obtain ⟨c, rfl, hc⟩ := (heach next List.mem_cons_self).resolve_left hnext
      exact hc

/-- A text can be cut in one way only. -/
lemma AreRuns.eq_tokens {runs : List Text} {text : Text} (h : AreRuns runs text) :
    runs = text.tokens := by
  obtain ⟨rfl, heach, hapart⟩ := h
  induction runs with
  | nil => rfl
  | cons run runs ih =>
      have hrest := ih (fun r hr => heach r (List.mem_cons_of_mem run hr)) hapart.tail
      rw [List.flatten_cons]
      rcases heach run List.mem_cons_self with hrun | ⟨c, rfl, hc⟩
      · have hstart := startsWithWord_flatten hrun
          (fun r hr => heach r (List.mem_cons_of_mem run hr)) hapart
        rw [tokens_run_append hrun hstart, ← hrest]
      · rw [List.singleton_append, tokens_other_cons _ hc, ← hrest]

lemma isWord_head?_tokens {text : Text} (h : startsWithWord text = false) :
    ∀ run ∈ text.tokens.head?, ¬ IsWord run := by
  cases text with
  | nil => simp
  | cons c rest =>
      have hc : isWordChar c = false := h
      rw [tokens_other_cons rest hc]
      rintro run hrun hword
      obtain rfl : [c] = run := Option.some.inj hrun
      exact hword.singleton_ne hc rfl

/-- The tokens of a text are such a cut. -/
lemma areRuns_tokens (text : Text) : AreRuns text.tokens text where
  flatten := flatten_tokens text
  each := by
    induction text using tokenInduction with
    | nil => simp
    | other c rest hc ih =>
        rw [tokens_other_cons rest hc]
        exact List.forall_mem_cons.mpr ⟨.inr ⟨c, rfl, hc⟩, ih⟩
    | run run rest hrun hrest ih =>
        rw [tokens_run_append hrun hrest]
        exact List.forall_mem_cons.mpr ⟨.inl hrun, ih⟩
  apart := by
    induction text using tokenInduction with
    | nil => exact List.isChain_nil
    | other c rest hc ih =>
        rw [tokens_other_cons rest hc]
        exact List.isChain_cons.mpr ⟨fun _ _ h => h.1.singleton_ne hc rfl, ih⟩
    | run run rest hrun hrest ih =>
        rw [tokens_run_append hrun hrest]
        exact List.isChain_cons.mpr
          ⟨fun next hnext h => isWord_head?_tokens hrest next hnext h.2, ih⟩

/-- The tokens of a text are the one way to cut it into runs. -/
theorem areRuns_iff {runs : List Text} {text : Text} :
    AreRuns runs text ↔ runs = text.tokens := by
  constructor
  · exact AreRuns.eq_tokens
  · rintro rfl
    exact areRuns_tokens text

/-! ### Words between boundaries -/

/-- At a boundary the tokens on both sides are those of the parts. -/
lemma tokens_append {text rest : Text}
    (h : endsWithWord text = false ∨ startsWithWord rest = false) :
    tokens (text ++ rest) = tokens text ++ tokens rest := by
  refine List.splitBy_append fun a ha b hb => ?_
  rw [sameRun, Bool.and_eq_false_iff]
  refine h.imp (fun hend => ?_) (fun hstart => ?_)
  · rw [endsWithWord, Option.mem_def.mp ha] at hend
    exact hend
  · cases rest with
    | nil => exact absurd hb (by simp)
    | cons c rest =>
        obtain rfl : c = b := Option.some.inj hb
        exact hstart

/-- A word that stands between boundaries is a run. -/
lemma mem_tokens_of_boundaries {word before after : Text} (hword : IsWord word)
    (hbefore : endsWithWord before = false) (hafter : startsWithWord after = false) :
    word ∈ tokens (before ++ word ++ after) := by
  rw [List.append_assoc, tokens_append (.inl hbefore), tokens_run_append hword hafter]
  exact List.mem_append_right _ List.mem_cons_self

/-! ### What is left -/

lemma startsWithWord_withoutRuns {word text : Text} (hword : IsWord word)
    (h : startsWithWord text = false) : startsWithWord (withoutRuns word text) = false := by
  cases text with
  | nil => rfl
  | cons c rest =>
      have hc : isWordChar c = false := h
      rw [withoutRuns_other_cons hword hc]
      exact hc

/-- The runs that are left are cut as before: where one is taken out, the characters on both sides
are no word characters and do not grow together. -/
lemma tokens_withoutRuns {word : Text} (hword : IsWord word) (text : Text) :
    (withoutRuns word text).tokens = text.tokens.filter (· ≠ word) := by
  induction text using tokenInduction with
  | nil => rfl
  | other c rest hc ih =>
      rw [withoutRuns_other_cons hword hc, tokens_other_cons _ hc, ih, tokens_other_cons rest hc,
        List.filter_cons_of_pos (by simpa using hword.singleton_ne hc)]
  | run run rest hrun hrest ih =>
      rw [withoutRuns_run_append hrun hrest, tokens_run_append hrun hrest]
      split
      · next heq => rw [List.nil_append, ih, List.filter_cons_of_neg (by simpa using heq)]
      · next hne =>
          rw [tokens_run_append hrun (startsWithWord_withoutRuns hword hrest), ih,
            List.filter_cons_of_pos (by simpa using hne)]

/-- The letters beyond ASCII are no word characters. -/
lemma isWordChar_of_le {c : Char} (h : 128 ≤ c.toNat) : isWordChar c = false := by
  have hbound (d : Char) (hd : d.toNat < 128) : ¬ c.val ≤ d.val := fun hle =>
    absurd (UInt32.le_iff_toNat_le.mp hle) (by
      have : c.val.toNat = c.toNat := rfl
      have : d.val.toNat = d.toNat := rfl
      omega)
  have hunderscore : c ≠ '_' := by
    rintro rfl
    exact absurd h (by decide)
  have hupper : c.isUpper = false := decide_eq_false fun hc => hbound 'Z' (by decide) hc.2
  have hlower : c.isLower = false :=
    Bool.and_eq_false_iff.mpr (.inr (decide_eq_false (hbound 'z' (by decide))))
  have hletter : c.isAlpha = false := Bool.or_eq_false_iff.mpr ⟨hupper, hlower⟩
  have hdigit : c.isDigit = false :=
    Bool.and_eq_false_iff.mpr (.inr (decide_eq_false (hbound '9' (by decide))))
  rw [isWordChar, Char.isAlphanum, hletter, hdigit]
  simpa using hunderscore

/-- **The removal of a word**. A text is cut in one way into the longest runs of word characters and
single other characters, letters beyond ASCII among them. The removal deletes the runs equal to the
word, and all others are left as they are. Then the word stands nowhere between boundaries, and to
remove it again changes nothing. -/
theorem removeWord_deletes_runs {word : Text} (hword : IsWord word) (text : Text) :
    (∀ runs, AreRuns runs text ↔ runs = text.tokens) ∧
      (∀ c : Char, 128 ≤ c.toNat → isWordChar c = false) ∧
      removeWord word text = (text.tokens.filter (· ≠ word)).flatten ∧
      (removeWord word text).tokens = text.tokens.filter (· ≠ word) ∧
      (∀ before after, removeWord word text = before ++ word ++ after →
        endsWithWord before = true ∨ startsWithWord after = true) ∧
      removeWord word (removeWord word text) = removeWord word text := by
  have htokens := tokens_withoutRuns hword text
  have hnone : word ∉ (withoutRuns word text).tokens := by
    rw [htokens]
    exact fun hmem => by simpa using List.of_mem_filter hmem
  rw [removeWord_eq_withoutRuns hword]
  refine ⟨fun _ => areRuns_iff, fun _ => isWordChar_of_le, rfl, htokens, ?_, ?_⟩
  · intro before after htext
    -- between two boundaries the word would be a token, and none is left
    by_contra hboundaries
    rw [not_or, Bool.not_eq_true, Bool.not_eq_true] at hboundaries
    refine hnone ?_
    rw [htext]
    exact mem_tokens_of_boundaries hword hboundaries.1 hboundaries.2
  · rw [removeWord_eq_withoutRuns hword, withoutRuns, List.filter_eq_self.mpr, flatten_tokens]
    rintro run hrun
    rw [decide_eq_true_iff]
    rintro rfl
    exact hnone hrun

/-- The word `a9` at both ends of a text, next to itself, and inside longer words. -/
def hashedText : Text := "a9 a9,a9éa9 a9a a9"

theorem removeWord_hashedText :
    IsWord "a9" ∧
      removeWord "a9" hashedText = " ,é a9a ".toList ∧
      (removeWord "a9" hashedText).tokens = [" ", ",", "é", " ", "a9a", " "].map String.toList ∧
      removeWord "a9" (removeWord "a9" hashedText) = removeWord "a9" hashedText := by
  have hword : IsWord "a9" := by decide
  obtain ⟨-, -, hleft, htokens, -, hagain⟩ := removeWord_deletes_runs hword hashedText
  have hruns : hashedText.tokens.filter (· ≠ "a9".toList) =
      [" ", ",", "é", " ", "a9a", " "].map String.toList := by
    decide +kernel
  rw [hruns] at hleft htokens
  exact ⟨hword, hleft.trans (by decide +kernel), htokens, hagain⟩

end HotReload
