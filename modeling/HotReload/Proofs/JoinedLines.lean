import Mathlib.Data.List.DropRight
import HotReload.Proofs.Lines
/-!
Lines that are joined into one.

* `isTrimmed_of_mem_keptLines`: a line that is kept begins and ends with no blank.
* `isTrimmed_join`: neither does a row of such lines with single spaces between them, and
  `flatten_of_isTrimmed`: joining leaves it alone.
* `flatten_append_cons`: the two sides of a line end are joined by themselves.
* `marks_flatten`: no character but blanks is taken away or added.
* `flatten_joins_lines` puts this together.
-/

namespace HotReload.Text

/-! ### Lines that are kept -/

/-- The pieces between separators hold none. -/
lemma notMem_of_mem_split {sep : Char} {text piece : Text} (h : piece ∈ split sep text) :
    sep ∉ piece := by
  induction text generalizing piece with
  | nil =>
      rw [List.mem_singleton.mp h]
      exact List.not_mem_nil
  | cons c text ih =>
      rw [split] at h
      split at h
      · rcases List.mem_cons.mp h with rfl | hmem
        · exact List.not_mem_nil
        · exact ih hmem
      · next hc =>
          -- the character goes to the front of the first piece
          cases hpieces : split sep text with
          | nil => exact absurd hpieces (split_ne_nil sep text)
          | cons first pieces =>
              rw [hpieces] at h ih
              rcases List.mem_cons.mp h with rfl | hmem
              · rw [List.mem_cons, not_or]
                exact ⟨Ne.symm hc, ih List.mem_cons_self⟩
              · exact ih (List.mem_cons_of_mem first hmem)

lemma stripRight_eq_rdropWhile (text : Text) : stripRight text = text.rdropWhile isBlank := rfl

lemma strip_sublist (text : Text) : (strip text).Sublist text :=
  (List.rdropWhile_prefix isBlank _).sublist.trans (List.dropWhile_sublist isBlank)

lemma head?_strip (text : Text) : (strip text).head?.any isBlank = false := by
  have hstart : (text.dropWhile isBlank).head?.any isBlank = false := by
    have hhead := List.head?_dropWhile_not isBlank text
    cases hfirst : (text.dropWhile isBlank).head? with
    | none => rfl
    | some c =>
        rw [hfirst] at hhead
        simpa using hhead
  have hpre : strip text <+: text.dropWhile isBlank := List.rdropWhile_prefix isBlank _
  cases hline : strip text with
  | nil => rfl
  | cons c line =>
      rw [hline] at hpre
      obtain ⟨more, hmore⟩ := hpre
      rw [← hmore] at hstart
      exact hstart

lemma getLast?_strip (text : Text) : (strip text).getLast?.any isBlank = false := by
  cases hlast : (strip text).getLast? with
  | none => rfl
  | some c =>
      have hne : (text.dropWhile isBlank).rdropWhile isBlank ≠ [] := by
        intro hnil
        rw [strip, stripRight_eq_rdropWhile, hnil] at hlast
        exact absurd hlast (by simp)
      have hblank := List.rdropWhile_last_not isBlank (text.dropWhile isBlank) hne
      rw [strip, stripRight_eq_rdropWhile, List.getLast?_eq_some_getLast hne] at hlast
      rw [Option.some.inj hlast] at hblank
      simpa using hblank

lemma isTrimmed_of_mem_keptLines {text line : Text} (h : line ∈ keptLines text) :
    IsTrimmed line := by
  obtain ⟨hstripped, hnonempty⟩ := List.mem_filter.mp h
  obtain ⟨piece, hpiece, rfl⟩ := List.mem_map.mp hstripped
  exact
    { newline := fun hmem => notMem_of_mem_split hpiece ((strip_sublist piece).subset hmem)
      nonempty := by simpa using hnonempty
      head := head?_strip piece
      last := getLast?_strip piece }

/-! ### Joined lines -/

lemma IsTrimmed.append {line more : Text} (hline : IsTrimmed line) (hmore : IsTrimmed more) :
    IsTrimmed (line ++ [' '] ++ more) where
  newline := by
    rw [List.mem_append, List.mem_append]
    rintro ((hmem | hmem) | hmem)
    · exact hline.newline hmem
    · exact absurd hmem (by decide)
    · exact hmore.newline hmem
  nonempty := List.append_ne_nil_of_right_ne_nil _ hmore.nonempty
  head := by
    rw [List.append_assoc, List.head?_append_of_ne_nil line hline.nonempty]
    exact hline.head
  last := by
    rw [List.getLast?_append_of_ne_nil _ hmore.nonempty]
    exact hmore.last

/-- Lines that begin and end with no blank make one such line. -/
lemma isTrimmed_join {lines : List Text} (hne : lines ≠ []) (h : ∀ line ∈ lines, IsTrimmed line) :
    IsTrimmed (join [' '] lines) := by
  induction lines with
  | nil => exact absurd rfl hne
  | cons line lines ih =>
      rw [List.forall_mem_cons] at h
      cases lines with
      | nil => exact h.1
      | cons next lines =>
          rw [join_cons [' '] line (by simp)]
          exact h.1.append (ih (by simp) h.2)

/-- A text is joined to nothing, or to a line that begins and ends with no blank. -/
lemma flatten_eq_nil_or_isTrimmed (text : Text) :
    (keptLines text = [] ∧ flatten text = []) ∨
      (keptLines text ≠ [] ∧ IsTrimmed (flatten text)) := by
  rw [flatten_eq_join]
  by_cases hlines : keptLines text = []
  · exact .inl ⟨hlines, by rw [hlines]; rfl⟩
  · exact .inr ⟨hlines, isTrimmed_join hlines fun _ => isTrimmed_of_mem_keptLines⟩

lemma flatten_eq_nil_iff {text : Text} : flatten text = [] ↔ keptLines text = [] := by
  rcases flatten_eq_nil_or_isTrimmed text with ⟨hlines, hflat⟩ | ⟨hlines, hflat⟩
  · exact iff_of_true hflat hlines
  · exact iff_of_false hflat.nonempty hlines

/-- The two sides of a line end are joined by themselves. -/
lemma flatten_append_cons (text rest : Text) :
    flatten (text ++ '\n' :: rest) =
      if flatten text = [] then flatten rest
      else if flatten rest = [] then flatten text
      else flatten text ++ ' ' :: flatten rest := by
  rw [flatten_eq_join, keptLines_append_cons]
  split
  · next htext => rw [flatten_eq_nil_iff.mp htext, List.nil_append, flatten_eq_join]
  · next htext =>
      split
      · next hrest => rw [flatten_eq_nil_iff.mp hrest, List.append_nil, flatten_eq_join]
      · next hrest =>
          rw [join_append_of_ne_nil [' '] (mt flatten_eq_nil_iff.mpr htext)
            (mt flatten_eq_nil_iff.mpr hrest), List.append_assoc, List.singleton_append,
            flatten_eq_join, flatten_eq_join]

/-- A line that begins and ends with no blank is joined to itself. -/
lemma flatten_of_isTrimmed {line : Text} (h : IsTrimmed line) : flatten line = line := by
  have hstrip : strip line = line := @strip_of_isIndented ([], line) ⟨rfl, h⟩
  have hnonempty : (!line.isEmpty) = true := by simpa using h.nonempty
  rw [flatten, split_of_notMem h.newline, List.map_singleton, hstrip,
    List.filter_cons_of_pos (p := fun line : Text => !line.isEmpty) hnonempty]
  rfl

/-! ### Characters other than blanks -/

/-- The characters of a text that are no blanks. -/
def marks (text : Text) : Text := text.filter fun c => !isBlank c

lemma marks_append (text rest : Text) : marks (text ++ rest) = marks text ++ marks rest :=
  List.filter_append text rest

lemma marks_of_forall_blank {text : Text} (h : ∀ c ∈ text, isBlank c = true) : marks text = [] :=
  List.filter_eq_nil_iff.mpr fun c hc => by simp [h c hc]

/-- Between pieces, a blank adds nothing. -/
lemma marks_join {sep : Char} (hsep : isBlank sep = true) (pieces : List Text) :
    marks (join [sep] pieces) = pieces.flatMap marks := by
  have hnone : marks [sep] = [] := marks_of_forall_blank (by simpa using hsep)
  induction pieces with
  | nil => rfl
  | cons piece pieces ih =>
      cases pieces with
      | nil => rw [join, List.flatMap_singleton]
      | cons next pieces =>
          rw [join_cons [sep] piece (by simp), marks_append, marks_append, hnone, List.append_nil,
            ih]
          rfl

lemma marks_dropWhile (text : Text) : marks (text.dropWhile isBlank) = marks text := by
  have hblanks : marks (text.takeWhile isBlank) = [] :=
    marks_of_forall_blank fun _ => List.mem_takeWhile_imp
  conv_rhs => rw [← List.takeWhile_append_dropWhile (p := isBlank) (l := text), marks_append,
    hblanks, List.nil_append]

lemma marks_strip (text : Text) : marks (strip text) = marks text := by
  have hreverse (text : Text) : marks text.reverse = (marks text).reverse :=
    List.filter_reverse
  rw [strip, stripRight, hreverse, marks_dropWhile, hreverse, List.reverse_reverse,
    marks_dropWhile]

/-- Blanks are all that is taken from the lines of a text. -/
lemma flatMap_marks_keptLines (text : Text) : (keptLines text).flatMap marks = marks text := by
  have hkept (lines : List Text) :
      (lines.filter fun line => !line.isEmpty).flatMap marks = lines.flatMap marks := by
    induction lines with
    | nil => rfl
    | cons line lines ih =>
        cases line with
        | nil => exact ih
        | cons c line => rw [List.filter_cons_of_pos rfl, List.flatMap_cons, List.flatMap_cons, ih]
  calc (keptLines text).flatMap marks
      = ((split '\n' text).map strip).flatMap marks := hkept _
    _ = (split '\n' text).flatMap marks := by
        rw [List.flatMap_map]
        exact congrArg (List.flatMap · _) (funext marks_strip)
    _ = marks (join ['\n'] (split '\n' text)) := (marks_join (by decide) _).symm
    _ = marks text := by rw [join_split]

lemma marks_flatten (text : Text) : marks (flatten text) = marks text := by
  rw [flatten_eq_join, marks_join (by decide), flatMap_marks_keptLines]

/-! ### All together -/

/-- **Joining lines**. The two sides of a line end are joined by themselves, with a space between
them where neither is empty. What comes out is one line that begins and ends with no blank, has
the same characters but for blanks, and is joined to itself. -/
theorem flatten_joins_lines (text rest : Text) :
    flatten (text ++ '\n' :: rest) =
        (if flatten text = [] then flatten rest
          else if flatten rest = [] then flatten text
          else flatten text ++ ' ' :: flatten rest) ∧
      '\n' ∉ flatten text ∧
      (∀ c, (flatten text).head? = some c → isBlank c = false) ∧
      (∀ c, (flatten text).getLast? = some c → isBlank c = false) ∧
      flatten (flatten text) = flatten text ∧
      (flatten text).filter (fun c => !isBlank c) = text.filter fun c => !isBlank c := by
  refine ⟨flatten_append_cons text rest, ?_⟩
  have hmarks := marks_flatten text
  rcases flatten_eq_nil_or_isTrimmed text with ⟨-, hflat⟩ | ⟨-, htrimmed⟩
  · rw [hflat] at hmarks ⊢
    exact ⟨List.not_mem_nil, by simp, by simp, rfl, hmarks⟩
  · have hhead := htrimmed.head
    have hlast := htrimmed.last
    refine ⟨htrimmed.newline, fun c hc => ?_, fun c hc => ?_, flatten_of_isTrimmed htrimmed,
      hmarks⟩
    · rw [hc] at hhead
      exact hhead
    · rw [hc] at hlast
      exact hlast

end HotReload.Text
