import Mathlib.Data.List.Basic
import HotReload.Text
/-!
Texts as pieces between separators.

* `append_cons_inj_left`: the first separator cuts a text in one way only.
* `word_before_or_behind`: a word without separators lies on one side of each
  separator.
* `pieceInduction`: a text is a piece without separators, or such a piece, a separator
  and a text.
-/

namespace HotReload

variable {α : Type*} {sep : α}

/-- The first separator of a row cuts it in one way only. -/
lemma append_cons_inj_left {xs ys us vs : List α} (hxs : sep ∉ xs) (hys : sep ∉ ys)
    (h : xs ++ sep :: us = ys ++ sep :: vs) : xs = ys ∧ us = vs := by
  induction xs generalizing ys with
  | nil =>
      cases ys with
      | nil => exact ⟨rfl, List.tail_eq_of_cons_eq h⟩
      | cons y ys =>
          obtain ⟨rfl, _⟩ := List.cons.inj h
          exact absurd List.mem_cons_self hys
  | cons x xs ih =>
      cases ys with
      | nil =>
          obtain ⟨rfl, _⟩ := List.cons.inj h
          exact absurd List.mem_cons_self hxs
      | cons y ys =>
          obtain ⟨rfl, htail⟩ := List.cons.inj h
          obtain ⟨rfl, rfl⟩ := ih (fun hmem => hxs (List.mem_cons_of_mem _ hmem))
            (fun hmem => hys (List.mem_cons_of_mem _ hmem)) htail
          exact ⟨rfl, rfl⟩

/-- A word without separators, in a row that is cut at a separator, lies before the cut
or behind it. -/
lemma word_before_or_behind {xs us ys word vs : List α} (hword : sep ∉ word)
    (h : xs ++ sep :: us = ys ++ word ++ vs) :
    (∃ more, xs = ys ++ word ++ more ∧ vs = more ++ sep :: us) ∨
      ∃ more, us = more ++ word ++ vs ∧ ys = xs ++ sep :: more := by
  rcases List.append_eq_append_iff.mp h with ⟨behind, hys, hcut⟩ | ⟨more, hxs, hvs⟩
  · rcases List.cons_eq_append_iff.mp hcut with ⟨rfl, hvs⟩ | ⟨behind, rfl, hus⟩
    · exact .inl ⟨[], by simpa using hys.symm, hvs⟩
    -- the separator now lies in `ys` or in the word
    · rcases List.append_eq_append_iff.mp hys with ⟨part, _, hpart⟩ | ⟨part, hsplit, hpart⟩
      · exact absurd (by simp [hpart]) hword
      · rcases List.cons_eq_append_iff.mp hpart with ⟨_, hword'⟩ | ⟨more, rfl, hmore⟩
        · exact absurd (by simp [hword']) hword
        · exact .inr ⟨more, by rw [hus, hmore], hsplit⟩
  · exact .inl ⟨more, hxs, hvs⟩

/-- What holds of pieces without separators, and of a piece and a separator before a text
for which it holds, holds of every text. -/
@[elab_as_elim]
theorem pieceInduction {motive : List α → Prop} (sep : α)
    (last : ∀ piece, sep ∉ piece → motive piece)
    (more : ∀ piece rest, sep ∉ piece → motive rest → motive (piece ++ sep :: rest))
    (text : List α) : motive text := by
  by_cases hmem : sep ∈ text
  · obtain ⟨piece, rest, htext, hpiece⟩ := List.eq_append_cons_of_mem hmem
    have hlength : rest.length < text.length := by
      rw [htext, List.length_append, List.length_cons]
      omega
    rw [htext]
    exact more piece rest hpiece (pieceInduction sep last more rest)
  · exact last text hmem
termination_by text.length

end HotReload
