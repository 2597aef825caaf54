import Mathlib.Data.List.SplitBy
import Mathlib.Data.List.TakeWhile
import HotReload.Stylesheet
/-!
Texts as runs of word characters, and the removal of a word that stands between
boundaries.

* `Text.tokens` cuts a text into its maximal runs of word characters and single other
  characters; `tokens_other_cons` and `tokens_run_append` compute it, `tokenInduction`
  follows it.
* `removeWordFrom_eq` is the invariant of the removal: where it stands between two
  tokens, it goes on to drop the tokens equal to the word. Inside a run there is no
  boundary (`removeWordFrom_inside`).
* `removeWord_eq_withoutRuns`: the removal deletes exactly the runs equal to the word.
* `withoutRuns_replaceRuns`: a word that is put in the place of another one is removed
  from the same places.
-/

namespace HotReload

namespace Text

/-- Both characters belong to one run of word characters. -/
def sameRun (a b : Char) : Bool := isWordChar a && isWordChar b

/-- The maximal runs of word characters, and the other characters one by one, in order. -/
def tokens (text : Text) : List Text := text.splitBy sameRun

/-- A word: at least one character, and word characters only. -/
def IsWord (word : Text) : Prop := word ≠ [] ∧ ∀ c ∈ word, isWordChar c = true

instance (word : Text) : Decidable (IsWord word) :=
  decidable_of_iff (word ≠ [] ∧ word.all isWordChar = true) (by rw [IsWord, List.all_eq_true])

/-- The text without the runs equal to `word`. -/
def withoutRuns (word text : Text) : Text := (text.tokens.filter (· ≠ word)).flatten

/-- The text with `word'` in the place of each run equal to `word`. -/
def replaceRuns (word word' text : Text) : Text :=
  (text.tokens.map fun run => if run = word then word' else run).flatten

end Text

open Text

/-! ### Tokens -/

lemma flatten_tokens (text : Text) : text.tokens.flatten = text := List.flatten_splitBy _ _

@[simp] lemma tokens_nil : tokens [] = [] := rfl

/-- A character that is no word character is a token. -/
lemma tokens_other_cons {c : Char} (rest : Text) (h : isWordChar c = false) :
    tokens (c :: rest) = [c] :: tokens rest := by
  have hcut := List.splitBy_append (r := sameRun) (l := [c]) (m := rest)
    (by simp [sameRun, h])
  exact hcut

/-- A run up to a boundary is a token. -/
lemma tokens_run_append {run rest : Text} (hrun : IsWord run)
    (hrest : startsWithWord rest = false) : tokens (run ++ rest) = run :: tokens rest := by
  have hchain : run.IsChain fun a b => sameRun a b = true :=
    (List.pairwise_of_forall_mem_list fun a ha b hb => by
      simp [sameRun, hrun.2 a ha, hrun.2 b hb]).isChain
  have hcut := List.splitBy_append (r := sameRun) (l := run) (m := rest) (by
    intro a _ b hb
    cases rest with
    | nil => exact absurd hb (by simp)
    | cons d rest =>
        obtain rfl : d = b := by simpa using hb
        have hd : isWordChar d = false := hrest
        simp [sameRun, hd])
  rw [tokens, hcut, List.splitBy_of_isChain hrun.1 hchain]
  rfl

lemma Text.IsWord.startsWithWord_append {word : Text} (h : IsWord word) (rest : Text) :
    startsWithWord (word ++ rest) = true := by
  cases word with
  | nil => exact absurd rfl h.1
  | cons c word => exact h.2 c List.mem_cons_self

lemma Text.IsWord.startsWithWord {word : Text} (h : IsWord word) :
    startsWithWord word = true := by
  simpa using h.startsWithWord_append []

lemma Text.IsWord.endsWithWord {word : Text} (h : IsWord word) : endsWithWord word = true := by
  rw [HotReload.endsWithWord, List.getLast?_eq_some_getLast h.1]
  exact h.2 _ (List.getLast_mem h.1)

lemma Text.IsWord.singleton_ne {word : Text} (h : IsWord word) {c : Char}
    (hc : isWordChar c = false) : [c] ≠ word := by
  rintro rfl
  exact absurd (h.2 c List.mem_cons_self) (by simp [hc])

/-- What holds of the empty text, of a text behind a character that is no word character,
and of a text behind a run, holds of every text. -/
@[elab_as_elim]
theorem tokenInduction {motive : Text → Prop} (nil : motive [])
    (other : ∀ c rest, isWordChar c = false → motive rest → motive (c :: rest))
    (run : ∀ run rest, IsWord run → startsWithWord rest = false → motive rest →
      motive (run ++ rest))
    (text : Text) : motive text := by
  cases text with
  | nil => exact nil
  | cons c rest =>
      by_cases hc : isWordChar c = true
      · have hrun : IsWord ((c :: rest).takeWhile isWordChar) :=
          ⟨by simp [hc], fun d hd => List.mem_takeWhile_imp hd⟩
        have hrest : startsWithWord ((c :: rest).dropWhile isWordChar) = false := by
          have hhead := List.head?_dropWhile_not isWordChar (c :: rest)
          cases hdrop : (c :: rest).dropWhile isWordChar with
          | nil => rfl
          | cons d more =>
              rw [hdrop] at hhead
              simpa [startsWithWord] using hhead
        have hlength : ((c :: rest).dropWhile isWordChar).length < (c :: rest).length := by
          rw [List.dropWhile_cons_of_pos hc, List.length_cons]
          exact Nat.lt_succ_of_le (List.dropWhile_sublist _).length_le
        -- the longest run of word characters at the front is a token
        rw [← List.takeWhile_append_dropWhile (p := isWordChar) (l := c :: rest)]
        exact run _ _ hrun hrest (tokenInduction nil other run _)
      · exact other c rest (Bool.not_eq_true _ ▸ hc) (tokenInduction nil other run rest)
termination_by text.length
decreasing_by
  · exact hlength
  · exact Nat.lt_succ_self rest.length

section

variable {word word' : Text} {run rest : Text} {c : Char}

lemma withoutRuns_other_cons (hword : IsWord word) (hc : isWordChar c = false) :
    withoutRuns word (c :: rest) = c :: withoutRuns word rest := by
  rw [withoutRuns, tokens_other_cons rest hc,
    List.filter_cons_of_pos (by simpa using hword.singleton_ne hc)]
  rfl

lemma withoutRuns_run_append (hrun : IsWord run) (hrest : startsWithWord rest = false) :
    withoutRuns word (run ++ rest) = (if run = word then [] else run) ++ withoutRuns word rest := by
  rw [withoutRuns, tokens_run_append hrun hrest, List.filter_cons]
  split <;> simp_all [withoutRuns]

lemma replaceRuns_other_cons (hword : IsWord word) (hc : isWordChar c = false) :
    replaceRuns word word' (c :: rest) = c :: replaceRuns word word' rest := by
  rw [replaceRuns, tokens_other_cons rest hc, List.map_cons, if_neg (hword.singleton_ne hc)]
  rfl

lemma replaceRuns_run_append (hrun : IsWord run) (hrest : startsWithWord rest = false) :
    replaceRuns word word' (run ++ rest) =
      (if run = word then word' else run) ++ replaceRuns word word' rest := by
  rw [replaceRuns, tokens_run_append hrun hrest, List.map_cons, List.flatten_cons, replaceRuns]

end

/-! ### Removal -/

/-- Where no boundary lies before the word, the removal goes on at the next character. -/
lemma removeWordFrom_of_not_standsHere {word : Text} {before : Bool} {c : Char} {rest : Text}
    (h : standsHere word before (c :: rest) = false) :
    removeWordFrom word before 0 (c :: rest) = c :: removeWordFrom word (isWordChar c) 0 rest := by
  rw [removeWordFrom, if_neg (by simp [h])]

/-- No boundary stands before a character of a run but the first. -/
lemma removeWordFrom_inside {word run : Text} (hword : IsWord word)
    (hrun : ∀ c ∈ run, isWordChar c = true) (rest : Text) :
    removeWordFrom word true 0 (run ++ rest) = run ++ removeWordFrom word true 0 rest := by
  induction run with
  | nil => rfl
  | cons c run ih =>
      have hc : isWordChar c = true := hrun c List.mem_cons_self
      have hhere : standsHere word true (c :: (run ++ rest)) = false := by
        simp [standsHere, hword.startsWithWord]
      rw [List.cons_append, removeWordFrom_of_not_standsHere hhere, hc,
        ih fun d hd => hrun d (List.mem_cons_of_mem c hd)]
      rfl

/-- Characters that belong to a place found before are skipped. -/
lemma removeWordFrom_skip {word run : Text} (hrun : ∀ c ∈ run, isWordChar c = true)
    (rest : Text) :
    removeWordFrom word true run.length (run ++ rest) = removeWordFrom word true 0 rest := by
  induction run with
  | nil => rfl
  | cons c run ih =>
      rw [List.length_cons, List.cons_append, removeWordFrom, hrun c List.mem_cons_self]
      exact ih fun d hd => hrun d (List.mem_cons_of_mem c hd)

/-- At the start of a run, a word stands between boundaries exactly if it is the run. -/
lemma standsHere_run {word run rest : Text} (hword : IsWord word) (hrun : IsWord run)
    (hrest : startsWithWord rest = false) :
    standsHere word false (run ++ rest) = true ↔ run = word := by
  rw [standsHere, hword.startsWithWord, hword.endsWithWord]
  simp only [Bool.false_bne, Bool.true_bne, Bool.and_true, Bool.and_eq_true,
    List.isPrefixOf_iff_prefix, Bool.not_eq_true']
  constructor
  · rintro ⟨hpre, hdrop⟩
    -- of the word and the run one begins the other; what it has more would go on over a boundary
    rcases List.prefix_or_prefix_of_prefix hpre (List.prefix_append run rest) with
      ⟨more, rfl⟩ | ⟨more, rfl⟩
    · rw [List.append_assoc, List.drop_left] at hdrop
      cases more with
      | nil => exact List.append_nil word
      | cons c more =>
          have hc : isWordChar c = true := hrun.2 c (by simp)
          exact absurd hdrop (by simp [startsWithWord, hc])
    · cases more with
      | nil => exact (List.append_nil run).symm
      | cons c more =>
          obtain ⟨behind, hbehind⟩ := hpre
          rw [List.append_assoc, List.append_cancel_left_eq] at hbehind
          have hc : isWordChar c = true := hword.2 c (by simp)
          rw [← hbehind] at hrest
          exact absurd hrest (by simp [startsWithWord, hc])
  · rintro rfl
    rw [List.drop_left]
    exact ⟨List.prefix_append run rest, hrest⟩

/-- Between two tokens, the removal goes on to drop the tokens equal to the word. -/
lemma removeWordFrom_eq {word : Text} (hword : IsWord word) (text : Text) (before : Bool)
    (h : before = true → startsWithWord text = false) :
    removeWordFrom word before 0 text = withoutRuns word text := by
  induction text using tokenInduction generalizing before with
  | nil => rfl
  | other c rest hc ih =>
      -- no word stands here, as the character is none of a word
      have hhere : standsHere word before (c :: rest) = false := by
        rw [standsHere, Bool.and_eq_false_imp]
        intro hstart
        rw [Bool.and_eq_true, List.isPrefixOf_iff_prefix] at hstart
        obtain ⟨⟨more, hmore⟩, -⟩ := hstart
        have := hword.startsWithWord_append more
        rw [hmore] at this
        exact absurd this (by simp [startsWithWord, hc])
      rw [removeWordFrom_of_not_standsHere hhere, hc, ih false (by simp),
        withoutRuns_other_cons hword hc]
  | run run rest hrun hrest ih =>
      obtain rfl : before = false := by
        rw [hrun.startsWithWord_append] at h
        simpa using h
      have hrec := ih true fun _ => hrest
      have hdone : withoutRuns word (run ++ rest) = _ := withoutRuns_run_append hrun hrest
      have hhere := standsHere_run hword hrun hrest
      obtain ⟨c, more, rfl⟩ := List.exists_cons_of_ne_nil hrun.1
      have hc : isWordChar c = true := hrun.2 c List.mem_cons_self
      have hmore : ∀ d ∈ more, isWordChar d = true := fun d hd =>
        hrun.2 d (List.mem_cons_of_mem c hd)
      rw [hdone]
      rw [List.cons_append] at hhere ⊢
      -- the word stands here just if it is the whole run; either way all of the run is passed
      by_cases heq : c :: more = word
      · have hlength : word.length - 1 = more.length := by
          rw [← heq, List.length_cons, Nat.add_sub_cancel]
        rw [if_pos heq, removeWordFrom, if_pos (hhere.mpr heq), hc, hlength,
          removeWordFrom_skip hmore rest, hrec]
        rfl
      · rw [if_neg heq, removeWordFrom_of_not_standsHere
          (Bool.eq_false_iff.mpr (mt hhere.mp heq)), hc, removeWordFrom_inside hword hmore, hrec]
        rfl

/-- The removal deletes exactly the runs equal to the word. -/
theorem removeWord_eq_withoutRuns {word : Text} (hword : IsWord word) (text : Text) :
    removeWord word text = withoutRuns word text :=
  removeWordFrom_eq hword text false (by simp)

/-! ### Another word in the same places -/

lemma startsWithWord_replaceRuns {word word' : Text} (hword : IsWord word)
    (hword' : IsWord word') (text : Text) :
    startsWithWord (replaceRuns word word' text) = startsWithWord text := by
  induction text using tokenInduction with
  | nil => rfl
  | other c rest hc _ =>
      rw [replaceRuns_other_cons hword hc]
      rfl
  | run run rest hrun hrest _ =>
      rw [replaceRuns_run_append hrun hrest, hrun.startsWithWord_append]
      split
      · exact hword'.startsWithWord_append _
      · exact hrun.startsWithWord_append _

/-- Putting a word in the place of runs keeps the cuts between the tokens. -/
lemma tokens_replaceRuns {word word' : Text} (hword : IsWord word) (hword' : IsWord word')
    (text : Text) :
    (replaceRuns word word' text).tokens =
      text.tokens.map fun run => if run = word then word' else run := by
  induction text using tokenInduction with
  | nil => rfl
  | other c rest hc ih =>
      rw [replaceRuns_other_cons hword hc, tokens_other_cons _ hc, ih,
        tokens_other_cons rest hc, List.map_cons, if_neg (hword.singleton_ne hc)]
  | run run rest hrun hrest ih =>
      have hstart : startsWithWord (replaceRuns word word' rest) = false := by
        rw [startsWithWord_replaceRuns hword hword', hrest]
      have hput : IsWord (if run = word then word' else run) := by
        split
        · exact hword'
        · exact hrun
      rw [replaceRuns_run_append hrun hrest, tokens_run_append hput hstart, ih,
        tokens_run_append hrun hrest, List.map_cons]

/-- A word that is put in the place of another one, and that is no other run of the text,
is removed from the same places. -/
lemma withoutRuns_replaceRuns {word word' text : Text} (hword : IsWord word)
    (hword' : IsWord word') (hnew : word' = word ∨ word' ∉ text.tokens) :
    withoutRuns word' (replaceRuns word word' text) = withoutRuns word text := by
  rw [withoutRuns, withoutRuns, tokens_replaceRuns hword hword']
  congr 1
  generalize text.tokens = runs at hnew
  induction runs with
  | nil => rfl
  | cons run runs ih =>
      have hrest := ih (hnew.imp_right fun h hmem => h (List.mem_cons_of_mem run hmem))
      rw [List.map_cons]
      by_cases hrun : run = word
      · rw [if_pos hrun, List.filter_cons_of_neg (by simp), hrest,
          List.filter_cons_of_neg (by simpa using hrun)]
      · have hne : run ≠ word' := by
          rintro rfl
          exact hnew.elim hrun fun h => h List.mem_cons_self
        rw [if_neg hrun, List.filter_cons_of_pos (by simpa using hne), hrest,
          List.filter_cons_of_pos (by simpa using hrun)]

end HotReload
