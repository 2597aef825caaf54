import Mathlib.Data.List.Infix
import HotReload.Text
/-!
Lines and replacements in texts that are put together from parts.

* `join_append_of_ne_nil`: two rows of pieces are joined one by one.
* `split_append_cons`: a text is split on both sides of a separator by itself.
* `keptLines` are the lines that are joined, those on the two sides of a line end by themselves
  (`keptLines_append_cons`).
* `flatten_lines`: indented lines that begin and end with no blank are joined without their
  indents.
* `replace_append_cons`: so is a text replaced in, if the separator is not in the pattern.
  `replace_join` is this for joined pieces.
* `replace_append_of_forall`, `replace_pattern_append`: where no pattern begins, a text stays, and a
  pattern at the start is replaced.
* `replace_of_not_infix`, `replace_self`: nothing to replace, and everything.
* `universalLines_eq_self_iff`: reading all line ends as one kind leaves a text alone just if there
  is no carriage return in it.
* `universalLines_append_word`, `exists_word_of_universalLines`: it neither takes a word without
  line ends from a text nor brings one into it.
-/

namespace HotReload.Text

/-! ### Pieces -/

/-- Before other pieces, a separator stands behind each piece. -/
lemma join_append (sep : Text) (pieces : List Text) {rest : List Text} (h : rest ≠ []) :
    join sep (pieces ++ rest) = pieces.flatMap (· ++ sep) ++ join sep rest := by
  induction pieces with
  | nil => rfl
  | cons piece pieces ih =>
      rw [List.cons_append, join_cons sep piece (by simp [h]), ih, List.flatMap_cons]
      simp only [List.append_assoc]

/-- Two rows of pieces are joined one by one, with the separator between them. -/
lemma join_append_of_ne_nil (sep : Text) {pieces rest : List Text} (hpieces : pieces ≠ [])
    (hrest : rest ≠ []) : join sep (pieces ++ rest) = join sep pieces ++ sep ++ join sep rest := by
  induction pieces with
  | nil => exact absurd rfl hpieces
  | cons piece pieces ih =>
      cases pieces with
      | nil => exact join_cons sep piece hrest
      | cons next pieces =>
          rw [List.cons_append, join_cons sep piece (by simp), ih (by simp),
            join_cons sep piece (by simp)]
          simp only [List.append_assoc]

lemma split_append_cons (sep : Char) (text rest : Text) :
    split sep (text ++ sep :: rest) = split sep text ++ split sep rest := by
  induction text with
  | nil => simp [split]
  | cons c text ih =>
      rw [List.cons_append, split, split, ih]
      by_cases hc : c = sep
      · simp [hc]
      · rw [if_neg hc, if_neg hc]
        cases hpieces : split sep text with
        | nil => exact absurd hpieces (split_ne_nil sep text)
        | cons piece pieces => rfl

lemma split_of_notMem {sep : Char} {text : Text} (h : sep ∉ text) : split sep text = [text] := by
  induction text with
  | nil => rfl
  | cons c text ih =>
      rw [List.mem_cons, not_or] at h
      rw [split, if_neg (Ne.symm h.1), ih h.2]

/-! ### Lines -/

/-- A line that is kept as it is when its blanks are taken off and empty lines are left out. -/
structure IsTrimmed (line : Text) : Prop where
  newline : '\n' ∉ line
  nonempty : line ≠ []
  head : line.head?.any isBlank = false
  last : line.getLast?.any isBlank = false

instance (line : Text) : Decidable (IsTrimmed line) :=
  decidable_of_iff ('\n' ∉ line ∧ line ≠ [] ∧ line.head?.any isBlank = false ∧
    line.getLast?.any isBlank = false)
    ⟨fun h => ⟨h.1, h.2.1, h.2.2.1, h.2.2.2⟩, fun h => ⟨h.newline, h.nonempty, h.head, h.last⟩⟩

/-- A line behind an indent of blanks. -/
structure IsIndented (line : Text × Text) : Prop where
  indent : line.1.all (· == ' ') = true
  trimmed : IsTrimmed line.2

lemma IsIndented.mem_indent {line : Text × Text} (h : IsIndented line) {c : Char}
    (hc : c ∈ line.1) : c = ' ' :=
  eq_of_beq (List.all_eq_true.mp h.indent c hc)

lemma strip_of_isIndented {line : Text × Text} (h : IsIndented line) :
    strip (line.1 ++ line.2) = line.2 := by
  obtain ⟨indent, line⟩ := line
  have hindent : ∀ c ∈ indent, isBlank c = true := fun c hc => by
    rw [h.mem_indent hc]
    decide
  -- the indent goes at the front, and nothing at the end, where no blank stands
  have hstart : (indent ++ line).dropWhile isBlank = line := by
    rw [List.dropWhile_append_of_pos hindent]
    cases line with
    | nil => rfl
    | cons c line =>
        have hblank : isBlank c = false := h.trimmed.head
        rw [List.dropWhile_cons_of_neg (by simp [hblank])]
  have hend : line.reverse.dropWhile isBlank = line.reverse := by
    cases hreverse : line.reverse with
    | nil => rfl
    | cons c more =>
        have hlast : line.getLast? = some c := by
          rw [← List.head?_reverse, hreverse]
          rfl
        have hblank : isBlank c = false := by
          have hany := h.trimmed.last
          rw [hlast] at hany
          exact hany
        rw [List.dropWhile_cons_of_neg (by simp [hblank])]
  rw [strip, stripRight, hstart, hend, List.reverse_reverse]

/-- The lines of a text that hold more than blanks, each without the blanks at its ends. -/
def keptLines (text : Text) : List Text :=
  ((split '\n' text).map strip).filter fun line => !line.isEmpty

lemma flatten_eq_join (text : Text) : flatten text = join [' '] (keptLines text) := rfl

/-- A line end keeps the lines on its two sides apart. -/
lemma keptLines_append_cons (text rest : Text) :
    keptLines (text ++ '\n' :: rest) = keptLines text ++ keptLines rest := by
  rw [keptLines, split_append_cons, List.map_append, List.filter_append, keptLines, keptLines]

/-- Indented lines are kept without their indents. -/
lemma keptLines_lines {lines : List (Text × Text)} (h : ∀ line ∈ lines, IsIndented line) :
    keptLines (lines.flatMap fun line => line.1 ++ line.2 ++ ['\n']) = lines.map Prod.snd := by
  induction lines with
  | nil => rfl
  | cons line lines ih =>
      rw [List.forall_mem_cons] at h
      have hnewline : '\n' ∉ line.1 ++ line.2 := by
        rw [List.mem_append, not_or]
        exact ⟨fun hmem => absurd (h.1.mem_indent hmem) (by decide), h.1.trimmed.newline⟩
      have hnonempty : (!line.2.isEmpty) = true := by
        simpa using h.1.trimmed.nonempty
      have hline : keptLines (line.1 ++ line.2) = [line.2] := by
        rw [keptLines, split_of_notMem hnewline, List.map_singleton, strip_of_isIndented h.1,
          List.filter_cons_of_pos (p := fun line : Text => !line.isEmpty) hnonempty]
        rfl
      rw [List.flatMap_cons, List.append_assoc (line.1 ++ line.2), List.singleton_append,
        keptLines_append_cons, hline, ih h.2, List.map_cons, List.singleton_append]

/-- Indented lines are joined without their indents. -/
theorem flatten_lines {lines : List (Text × Text)} (h : ∀ line ∈ lines, IsIndented line) :
    flatten (lines.flatMap fun line => line.1 ++ line.2 ++ ['\n']) =
      join [' '] (lines.map Prod.snd) := by
  rw [flatten_eq_join, keptLines_lines h]

/-! ### Replacements -/

variable {pattern : Text}

lemma isPrefixOf_append_cons {c : Char} (hc : c ∉ pattern) (text rest : Text) :
    pattern.isPrefixOf (text ++ c :: rest) = pattern.isPrefixOf text := by
  rw [Bool.eq_iff_iff, List.isPrefixOf_iff_prefix, List.isPrefixOf_iff_prefix]
  constructor
  · rintro ⟨more, hmore⟩
    rcases List.append_eq_append_iff.mp hmore with ⟨behind, htext, -⟩ | ⟨part, hpattern, hpart⟩
    · exact ⟨behind, htext.symm⟩
    · rcases List.cons_eq_append_iff.mp hpart with ⟨rfl, -⟩ | ⟨part, rfl, -⟩
      · rw [hpattern, List.append_nil]
      · exact absurd (by simp [hpattern]) hc
  · exact fun h => h.trans (List.prefix_append text (c :: rest))

lemma replaceFrom_append_cons (hpattern : pattern ≠ []) (replacement : Text) {c : Char}
    (hc : c ∉ pattern) (text rest : Text) (skip : Nat) (hskip : skip ≤ text.length) :
    replaceFrom pattern replacement skip (text ++ c :: rest) =
      replaceFrom pattern replacement skip text ++ c :: replaceFrom pattern replacement 0 rest := by
  induction text generalizing skip with
  | nil =>
      obtain rfl : skip = 0 := Nat.le_zero.mp hskip
      have hnone : pattern.isPrefixOf (c :: rest) = false := by
        have hempty := isPrefixOf_append_cons hc [] rest
        rw [List.nil_append] at hempty
        rw [hempty, Bool.eq_false_iff, Ne, List.isPrefixOf_iff_prefix, List.prefix_nil]
        exact hpattern
      simp [replaceFrom, hnone]
  | cons d text ih =>
      cases skip with
      | succ skip => exact ih skip (Nat.le_of_succ_le_succ hskip)
      | zero =>
          rw [List.cons_append, replaceFrom, replaceFrom, ← List.cons_append,
            isPrefixOf_append_cons hc]
          split
          · next hpattern =>
              have hlength := (List.isPrefixOf_iff_prefix.mp hpattern).length_le
              rw [List.length_cons] at hlength
              rw [ih _ (by omega), List.append_assoc]
          · rw [ih 0 (Nat.zero_le _), List.cons_append]

/-- On both sides of a character that is not in the pattern, a text is replaced in by itself. -/
theorem replace_append_cons (hpattern : pattern ≠ []) (replacement : Text) {c : Char}
    (hc : c ∉ pattern) (text rest : Text) :
    replace pattern replacement (text ++ c :: rest) =
      replace pattern replacement text ++ c :: replace pattern replacement rest :=
  replaceFrom_append_cons hpattern replacement hc text rest 0 (Nat.zero_le _)

/-- Pieces are replaced in one by one, if their separator is not in the pattern. -/
lemma replace_join (hpattern : pattern ≠ []) (replacement : Text) {sep : Char}
    (hsep : sep ∉ pattern) (pieces : List Text) :
    replace pattern replacement (join [sep] pieces) =
      join [sep] (pieces.map (replace pattern replacement)) := by
  induction pieces with
  | nil => rfl
  | cons piece pieces ih =>
      cases pieces with
      | nil => rfl
      | cons next pieces =>
          rw [List.map_cons, List.map_cons, join, join, List.append_assoc, List.append_assoc,
            List.singleton_append, List.singleton_append,
            replace_append_cons hpattern replacement hsep, ih, List.map_cons]

/-- A text stays before the rest if no pattern begins in it. -/
lemma replace_append_of_forall (replacement : Text) {text rest : Text}
    (h : ∀ head tail, text = head ++ tail → tail ≠ [] → ¬ pattern <+: tail ++ rest) :
    replace pattern replacement (text ++ rest) = text ++ replace pattern replacement rest := by
  induction text with
  | nil => rfl
  | cons c text ih =>
      have hhere : ¬ pattern.isPrefixOf (c :: (text ++ rest)) = true := by
        rw [List.isPrefixOf_iff_prefix]
        exact h [] (c :: text) rfl (List.cons_ne_nil c text)
      have hbehind := ih fun head tail htext => h (c :: head) tail (by rw [htext, List.cons_append])
      rw [List.cons_append, replace, replaceFrom, if_neg hhere, List.cons_append]
      exact congrArg (c :: ·) hbehind

lemma replaceFrom_eq_drop (replacement : Text) (skip : ℕ) (text : Text) :
    replaceFrom pattern replacement skip text = replace pattern replacement (text.drop skip) := by
  induction text generalizing skip with
  | nil => rw [List.drop_nil, replaceFrom, replace, replaceFrom]
  | cons c text ih =>
      cases skip with
      | zero => rfl
      | succ skip =>
          rw [replaceFrom, ih]
          rfl

/-- A pattern at the start is replaced. -/
lemma replace_pattern_append (hpattern : pattern ≠ []) (replacement rest : Text) :
    replace pattern replacement (pattern ++ rest) =
      replacement ++ replace pattern replacement rest := by
  obtain ⟨c, more, rfl⟩ := List.exists_cons_of_ne_nil hpattern
  have hhere : (c :: more).isPrefixOf (c :: (more ++ rest)) = true :=
    List.isPrefixOf_iff_prefix.mpr (List.prefix_append (c :: more) rest)
  rw [List.cons_append, replace, replaceFrom, if_pos hhere, replaceFrom_eq_drop, List.length_cons,
    Nat.add_sub_cancel, List.drop_left]

/-- Where the pattern does not occur, nothing is replaced. -/
lemma replace_of_not_infix (replacement : Text) {text : Text} (h : ¬ pattern <:+: text) :
    replace pattern replacement text = text := by
  have hkeep : replace pattern replacement (text ++ []) =
      text ++ replace pattern replacement [] := by
    refine replace_append_of_forall replacement fun head tail htext _ hpre => h ?_
    rw [List.append_nil] at hpre
    rw [htext]
    exact hpre.isInfix.trans (List.suffix_append head tail).isInfix
  rwa [List.append_nil, replace, replace, replaceFrom, List.append_nil] at hkeep

/-- The pattern itself is replaced. -/
lemma replace_self (hpattern : pattern ≠ []) (replacement : Text) :
    replace pattern replacement pattern = replacement := by
  have hstart := replace_pattern_append hpattern replacement []
  rwa [List.append_nil, replace, replace, replaceFrom, List.append_nil] at hstart

/-! ### Line ends -/

lemma universalLines_return {rest : Text} (h : ∀ tail, rest ≠ '\n' :: tail) :
    universalLines ('\r' :: rest) = '\n' :: universalLines rest := by
  rw [universalLines]
  exact h

lemma universalLines_cons {c : Char} (hc : c ≠ '\r') (rest : Text) :
    universalLines (c :: rest) = c :: universalLines rest := by
  rw [universalLines]
  · exact fun _ h _ => hc h
  · exact hc

lemma notMem_universalLines (text : Text) : '\r' ∉ universalLines text := by
  induction text using universalLines.induct with
  | case1 => exact List.not_mem_nil
  | case2 rest ih => rw [universalLines]; simp [ih]
  | case3 rest hrest ih => rw [universalLines_return hrest]; simp [ih]
  | case4 c rest hpair hc ih =>
      rw [universalLines_cons hc, List.mem_cons, not_or]
      exact ⟨fun h => hc h.symm, ih⟩

lemma universalLines_append_of_notMem {text : Text} (h : '\r' ∉ text) (rest : Text) :
    universalLines (text ++ rest) = text ++ universalLines rest := by
  induction text with
  | nil => rfl
  | cons c text ih =>
      rw [List.mem_cons, not_or] at h
      rw [List.cons_append, universalLines_cons (Ne.symm h.1), ih h.2, List.cons_append]

lemma universalLines_of_notMem {text : Text} (h : '\r' ∉ text) : universalLines text = text := by
  simpa [universalLines] using universalLines_append_of_notMem h []

lemma universalLines_eq_self_iff {text : Text} : universalLines text = text ↔ '\r' ∉ text := by
  constructor
  · intro h
    rw [← h]
    exact notMem_universalLines text
  · exact universalLines_of_notMem

/-- Line ends are read one by one, in the part before a character other than `\n` and in the
part from there. -/
lemma universalLines_append_cons (text : Text) {c : Char} (rest : Text) (hc : c ≠ '\n') :
    universalLines (text ++ c :: rest) = universalLines text ++ universalLines (c :: rest) := by
  induction text using universalLines.induct with
  | case1 => rfl
  | case2 more ih => simp only [List.cons_append, universalLines, ih]
  | case3 more hmore ih =>
      have hne : ∀ tail, more ++ c :: rest ≠ '\n' :: tail := by
        cases more with
        | nil => exact fun tail h => hc (List.cons.inj h).1
        | cons d more => exact fun tail h => hmore more (by rw [(List.cons.inj h).1])
      rw [List.cons_append, universalLines_return hne, universalLines_return hmore, ih,
        List.cons_append]
  | case4 d more hpair hd ih =>
      rw [List.cons_append, universalLines_cons hd, universalLines_cons hd, ih, List.cons_append]

/-- A word without line ends is read as it is, wherever it stands. -/
lemma universalLines_append_word {word : Text} (text rest : Text) (hne : word ≠ [])
    (hnewline : '\n' ∉ word) (hreturn : '\r' ∉ word) :
    universalLines (text ++ word ++ rest) =
      universalLines text ++ word ++ universalLines rest := by
  cases word with
  | nil => exact absurd rfl hne
  | cons c word =>
      have hc : c ≠ '\n' := by
        rintro rfl
        exact hnewline List.mem_cons_self
      rw [List.append_assoc, List.cons_append, universalLines_append_cons text _ hc,
        ← List.cons_append, universalLines_append_of_notMem hreturn, List.append_assoc]

/-- Wherever the text that is read is cut, the text can be cut. -/
lemma exists_append_of_universalLines {text xs ys : Text} (h : universalLines text = xs ++ ys) :
    ∃ us vs, text = us ++ vs ∧ universalLines us = xs ∧ universalLines vs = ys := by
  induction text using universalLines.induct generalizing xs with
  | case1 =>
      obtain ⟨rfl, rfl⟩ := List.append_eq_nil_iff.mp h.symm
      exact ⟨[], [], rfl, rfl, rfl⟩
  | case2 rest ih =>
      cases xs with
      | nil => exact ⟨[], _, rfl, rfl, h⟩
      | cons x xs =>
          obtain ⟨rfl, hrest⟩ := List.cons.inj h
          obtain ⟨us, vs, rfl, rfl, rfl⟩ := ih hrest
          exact ⟨'\r' :: '\n' :: us, vs, rfl, rfl, rfl⟩
  | case3 rest hne ih =>
      cases xs with
      | nil => exact ⟨[], _, rfl, rfl, h⟩
      | cons x xs =>
          rw [universalLines_return hne] at h
          obtain ⟨rfl, hrest⟩ := List.cons.inj h
          obtain ⟨us, vs, rfl, rfl, rfl⟩ := ih hrest
          -- the part before the cut does not go on with a line feed either
          refine ⟨'\r' :: us, vs, rfl, universalLines_return fun tail hus => ?_, rfl⟩
          exact hne (tail ++ vs) (by rw [hus, List.cons_append])
  | case4 c rest hpair hc ih =>
      cases xs with
      | nil => exact ⟨[], _, rfl, rfl, h⟩
      | cons x xs =>
          rw [universalLines_cons hc] at h
          obtain ⟨rfl, hrest⟩ := List.cons.inj h
          obtain ⟨us, vs, rfl, rfl, rfl⟩ := ih hrest
          exact ⟨c :: us, vs, rfl, universalLines_cons hc us, rfl⟩

lemma eq_of_universalLines {text word : Text} (hnewline : '\n' ∉ word)
    (h : universalLines text = word) : text = word := by
  subst h
  induction text using universalLines.induct with
  | case1 => rfl
  | case2 rest ih => exact absurd List.mem_cons_self hnewline
  | case3 rest hrest ih =>
      rw [universalLines_return hrest] at hnewline
      exact absurd List.mem_cons_self hnewline
  | case4 c rest hpair hc ih =>
      rw [universalLines_cons hc] at hnewline ⊢
      rw [← ih fun h => hnewline (List.mem_cons_of_mem c h)]

/-- A word without line ends that is read stands in the text. -/
lemma exists_word_of_universalLines {text xs word ys : Text} (hnewline : '\n' ∉ word)
    (h : universalLines text = xs ++ word ++ ys) :
    ∃ us vs, text = us ++ word ++ vs ∧ universalLines us = xs ∧ universalLines vs = ys := by
  obtain ⟨front, vs, rfl, hfront, hvs⟩ := exists_append_of_universalLines h
  obtain ⟨us, middle, rfl, hus, hmiddle⟩ := exists_append_of_universalLines hfront
  obtain rfl := eq_of_universalLines hnewline hmiddle
  exact ⟨us, vs, rfl, hus, hvs⟩

end HotReload.Text
