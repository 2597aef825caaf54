import Mathlib.Data.List.Basic
import HotReload.Command.Console
/-!
Texts with sequences that set a style, and what is left of them.

* `HasStyle`: an escape, a bracket, parameters, and a letter stand somewhere in a text.
* `withoutStyles_of_behind`, `withoutStyles_cons`: a sequence at the front is taken away, and any
  other character stays.
* `withoutStyles_eq_self_iff`: nothing is taken away just if there is no sequence.
-/

namespace HotReload

variable {c letter : Char} {parameters rest remaining text : Text}

/-- The characters between the bracket and the letter of a sequence. -/
def isStyleParameter (c : Char) : Bool := c.isDigit || c == ';' || c == '?'

/-- A text with a sequence that sets a style. -/
def HasStyle (text : Text) : Prop :=
  ∃ before parameters letter after,
    text = before ++ '\x1b' :: '[' :: (parameters ++ letter :: after) ∧
      parameters.all isStyleParameter ∧ letter.isAlpha

/-- What stands behind the sequence that a text begins with. -/
def behindStyle? : Text → Option Text
  | '\x1b' :: '[' :: after => afterStyle? after
  | _ => none

/-! ### The end of a sequence -/

/-- Digits stand before all letters, and separators are none. -/
lemma isAlpha_of_isStyleParameter (h : isStyleParameter c) : c.isAlpha = false := by
  rw [isStyleParameter, Bool.or_eq_true, Bool.or_eq_true, beq_iff_eq, beq_iff_eq] at h
  obtain (hdigit | rfl) | rfl := h
  · rw [Bool.eq_false_iff]
    intro hletter
    have hbound : c.val ≤ '9'.val := of_decide_eq_true ((Bool.and_eq_true _ _).mp hdigit).2
    obtain hupper | hlower := (Bool.or_eq_true _ _).mp hletter
    · have hfirst : 'A'.val ≤ c.val := (of_decide_eq_true hupper).1
      exact absurd (UInt32.le_trans hfirst hbound) (by decide)
    · have hfirst : 'a'.val ≤ c.val := of_decide_eq_true ((Bool.and_eq_true _ _).mp hlower).1
      exact absurd (UInt32.le_trans hfirst hbound) (by decide)
  · rfl
  · rfl

lemma afterStyle?_append (hparameters : parameters.all isStyleParameter)
    (hletter : letter.isAlpha) : afterStyle? (parameters ++ letter :: rest) = some rest := by
  induction parameters with
  | nil => rw [List.nil_append, afterStyle?, if_pos hletter]
  | cons c parameters ih =>
      rw [List.all_cons, Bool.and_eq_true] at hparameters
      have hparameter : c.isDigit || c == ';' || c == '?' := hparameters.1
      rw [List.cons_append, afterStyle?,
        if_neg (by simp [isAlpha_of_isStyleParameter hparameters.1]), if_pos hparameter]
      exact ih hparameters.2

lemma exists_of_afterStyle? (h : afterStyle? text = some remaining) :
    ∃ parameters letter, text = parameters ++ letter :: remaining ∧
      parameters.all isStyleParameter ∧ letter.isAlpha := by
  induction text with
  | nil => exact absurd h (by simp [afterStyle?])
  | cons c rest ih =>
      rw [afterStyle?] at h
      split_ifs at h with hletter hparameter
      · exact ⟨[], c, by rw [Option.some.inj h, List.nil_append], rfl, hletter⟩
      · obtain ⟨parameters, letter, rfl, hparameters, hend⟩ := ih h
        exact ⟨c :: parameters, letter, rfl, by simp [isStyleParameter, hparameter, hparameters],
          hend⟩

/-! ### A sequence at the front -/

lemma exists_of_behindStyle? (h : behindStyle? text = some remaining) :
    ∃ parameters letter, text = '\x1b' :: '[' :: (parameters ++ letter :: remaining) ∧
      parameters.all isStyleParameter ∧ letter.isAlpha := by
  unfold behindStyle? at h
  split at h
  · obtain ⟨parameters, letter, rfl, hparameters, hletter⟩ := exists_of_afterStyle? h
    exact ⟨parameters, letter, rfl, hparameters, hletter⟩
  · exact absurd h (by simp)

lemma length_lt_of_behindStyle? (h : behindStyle? text = some remaining) :
    remaining.length < text.length := by
  obtain ⟨parameters, letter, rfl, -, -⟩ := exists_of_behindStyle? h
  simp only [List.length_cons, List.length_append]
  omega

lemma hasStyle_of_behindStyle? (h : behindStyle? text = some remaining) : HasStyle text := by
  obtain ⟨parameters, letter, rfl, hparameters, hletter⟩ := exists_of_behindStyle? h
  exact ⟨[], parameters, letter, remaining, rfl, hparameters, hletter⟩

/-- A sequence begins at the first character or behind it. -/
lemma hasStyle_cons_iff :
    HasStyle (c :: rest) ↔ (behindStyle? (c :: rest)).isSome ∨ HasStyle rest := by
  constructor
  · rintro ⟨before, parameters, letter, after, h, hparameters, hletter⟩
    cases before with
    | nil =>
        left
        rw [h, List.nil_append, behindStyle?, afterStyle?_append hparameters hletter]
        rfl
    | cons b before =>
        obtain ⟨rfl, rfl⟩ := List.cons.inj h
        exact .inr ⟨before, parameters, letter, after, rfl, hparameters, hletter⟩
  · rintro (h | ⟨before, parameters, letter, after, rfl, hparameters, hletter⟩)
    · obtain ⟨remaining, hremaining⟩ := Option.isSome_iff_exists.mp h
      exact hasStyle_of_behindStyle? hremaining
    · exact ⟨c :: before, parameters, letter, after, rfl, hparameters, hletter⟩

/-! ### What is left -/

lemma withoutStylesFrom_eq_drop (skip : ℕ) (text : Text) :
    withoutStylesFrom skip text = withoutStyles (text.drop skip) := by
  induction text generalizing skip with
  | nil => rw [List.drop_nil, withoutStyles, withoutStylesFrom, withoutStylesFrom]
  | cons c rest ih =>
      cases skip with
      | zero => rfl
      | succ skip => rw [withoutStylesFrom, ih, List.drop_succ_cons]

/-- A character with which no sequence begins stays. -/
lemma withoutStyles_cons (h : behindStyle? (c :: rest) = none) :
    withoutStyles (c :: rest) = c :: withoutStyles rest := by
  rw [withoutStyles, withoutStyles, withoutStylesFrom.eq_def]
  dsimp only
  split
  · next after =>
      rw [behindStyle?] at h
      rw [h]
  · rfl

/-- A sequence at the front is taken away. -/
lemma withoutStyles_of_behind (h : behindStyle? text = some remaining) :
    withoutStyles text = withoutStyles remaining := by
  obtain ⟨parameters, letter, rfl, hparameters, hletter⟩ := exists_of_behindStyle? h
  rw [withoutStyles, withoutStylesFrom, afterStyle?_append hparameters hletter]
  dsimp only
  rw [withoutStylesFrom_eq_drop]
  have hbehind : '[' :: (parameters ++ letter :: remaining) =
      ('[' :: (parameters ++ [letter])) ++ remaining := by
    simp
  rw [hbehind, List.length_append, Nat.add_sub_cancel, List.drop_left]

lemma length_withoutStylesFrom_le (skip : ℕ) (text : Text) :
    (withoutStylesFrom skip text).length ≤ text.length := by
  induction text generalizing skip with
  | nil => exact Nat.le_refl _
  | cons c rest ih =>
      rw [withoutStylesFrom.eq_def]
      dsimp only
      split
      · exact Nat.le_succ_of_le (ih _)
      · split
        · split
          · exact Nat.le_succ_of_le (ih _)
          · exact Nat.succ_le_succ (ih 0)
        · exact Nat.succ_le_succ (ih 0)

/-- **Nothing is taken away** from a text just if no sequence in it sets a style. -/
theorem withoutStyles_eq_self_iff : withoutStyles text = text ↔ ¬ HasStyle text := by
  induction text with
  | nil => exact ⟨fun _ => by rintro ⟨_, _, _, _, h, -⟩; simp at h, fun _ => rfl⟩
  | cons c rest ih =>
      rw [hasStyle_cons_iff]
      cases hbehind : behindStyle? (c :: rest) with
      | none => simp [withoutStyles_cons hbehind, ih]
      | some remaining =>
          have hshorter : (withoutStyles (c :: rest)).length < (c :: rest).length := by
            rw [withoutStyles_of_behind hbehind]
            exact Nat.lt_of_le_of_lt (length_withoutStylesFrom_le 0 remaining)
              (length_lt_of_behindStyle? hbehind)
          simp only [Option.isSome_some, true_or, not_true, iff_false]
          intro h
          exact Nat.ne_of_lt hshorter (congrArg List.length h)

end HotReload
