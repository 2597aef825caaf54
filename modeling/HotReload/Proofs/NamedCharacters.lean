import Mathlib.Tactic.Lemma
import HotReload.Template.Token
/-!
Templates and the characters they name.

* `CharacterNames.Extends`: all names of one table stand in another one, for the same characters.
* `piecesOf_of_extends`: with more names, a template is cut into the pieces that it has with fewer.
-/

namespace HotReload

/-- All names of `characters` name the same characters in `more`. -/
def CharacterNames.Extends (more characters : CharacterNames) : Prop :=
  ∀ name c, characters name = some c → more name = some c

/-- Every table of names has more names than the empty one. -/
lemma CharacterNames.extends_empty (characters : CharacterNames) :
    characters.Extends fun _ => none := by
  intro name c h
  cases h

variable {characters more : CharacterNames}

/-- A result that is passed on stays if what it is made of does. -/
lemma bind_eq_some_of_imp {α β : Type} {a b : Option α} {f g : α → Option β} {out : β}
    (hab : ∀ x, a = some x → b = some x) (hfg : ∀ x, f x = some out → g x = some out)
    (h : a.bind f = some out) : b.bind g = some out := by
  obtain ⟨x, hx, hout⟩ := Option.bind_eq_some_iff.mp h
  rw [hab x hx]
  exact hfg x hout

lemma namedHere?_of_extends (h : more.Extends characters) {text : Text} {found : Char × Text}
    (hfound : namedHere? characters text = some found) : namedHere? more text = some found := by
  rw [namedHere?.eq_def] at hfound ⊢
  split at hfound
  · split at hfound
    · cases hfound
    · obtain ⟨c, hc, rfl⟩ := Option.map_eq_some_iff.mp hfound
      simp only [h _ _ hc, Option.map_some, *]
  · cases hfound

/-- The escape by name is the only one that looks at the names. -/
lemma escapeHere?_of_extends (h : more.Extends characters) {text : Text} {found : RawText × Text}
    (hfound : escapeHere? characters text = some found) : escapeHere? more text = some found := by
  cases text with
  | nil => cases hfound
  | cons c after =>
    by_cases hc : c = 'N'
    · subst hc
      obtain ⟨named, hnamed, rfl⟩ := Option.map_eq_some_iff.mp hfound
      exact Option.map_eq_some_iff.mpr ⟨named, namedHere?_of_extends h hnamed, rfl⟩
    · simpa only [escapeHere?, if_neg hc] using hfound

lemma unescaped_of_extends (h : more.Extends characters) {fuel : Nat} {text : Text} {out : RawText}
    (hout : unescaped characters fuel text = some out) : unescaped more fuel text = some out := by
  fun_induction unescaped characters fuel text generalizing out with
  | case1 | case2 => exact hout
  | case3 fuel rest ih =>
    exact bind_eq_some_of_imp (fun _ => escapeHere?_of_extends h)
      (fun _ => bind_eq_some_of_imp (fun _ => ih _) fun _ => id) hout
  | case4 fuel c rest hc ih =>
    obtain ⟨text, htext, rfl⟩ := Option.map_eq_some_iff.mp hout
    rw [unescaped]
    · exact Option.map_eq_some_iff.mpr ⟨text, ih htext, rfl⟩
    · exact hc

lemma tokenHere_of_extends (h : more.Extends characters) {text : Text} {found : Token × Text}
    (hfound : tokenHere characters text = some found) : tokenHere more text = some found := by
  cases text with
  | nil => cases hfound
  | cons c rest =>
    rw [tokenHere] at hfound ⊢
    split at hfound
    next hquote =>
      simp only [if_pos hquote]
      split at hfound
      next => cases hfound
      next inner after hinner =>
        obtain ⟨value, hvalue, rfl⟩ := Option.map_eq_some_iff.mp hfound
        exact Option.map_eq_some_iff.mpr ⟨value, unescaped_of_extends h hvalue, rfl⟩
    next hquote => simpa only [if_neg hquote] using hfound

lemma tagTokens_of_extends (h : more.Extends characters) {end? : Text → Option (Text × Bool)}
    {brackets : List Char} {fuel : Nat} {text : Text} {found : List Token × Text × Bool}
    (hfound : tagTokens characters end? brackets fuel text = some found) :
    tagTokens more end? brackets fuel text = some found := by
  fun_induction tagTokens characters end? brackets fuel text generalizing found with
  | case1 | case2 => cases hfound
  | case3 brackets fuel c rest after lineStart hend =>
    simpa only [tagTokens, hend] using hfound
  | case4 brackets fuel c rest hend hblank ih =>
    simpa only [tagTokens, hend, if_pos hblank] using ih hfound
  | case5 brackets fuel c rest hend hblank ih =>
    simp only [tagTokens, hend, if_neg hblank]
    exact bind_eq_some_of_imp (fun _ => tokenHere_of_extends h)
      (fun _ => bind_eq_some_of_imp (fun _ => id)
        fun _ => bind_eq_some_of_imp (fun _ => ih _ _) fun _ => id) hfound

lemma piecesFrom_of_extends (h : more.Extends characters) {lineStart : Bool} {fuel : Nat}
    {template : Text} {pieces : List Piece}
    (hpieces : piecesFrom characters lineStart fuel template = some pieces) :
    piecesFrom more lineStart fuel template = some pieces := by
  fun_induction piecesFrom characters lineStart fuel template generalizing pieces with
  | case1 => cases hpieces
  | case2 lineStart fuel template text hfirst =>
    simpa only [piecesFrom, hfirst] using hpieces
  | case3 lineStart fuel template text inner sign behind hsign hfirst before =>
    -- A comment holds no strings, so that only what stands behind it looks at the names.
    rename_i ih
    simp only [piecesFrom, hfirst, hsign]
    exact bind_eq_some_of_imp (fun _ => id)
      (fun _ => bind_eq_some_of_imp (fun _ => ih _ _) fun _ => id) hpieces
  | case4 lineStart fuel template text inner sign behind hsign hfirst before
  | case5 lineStart fuel template text inner sign behind hsign hfirst before =>
    rename_i ih
    simp only [piecesFrom, hfirst, hsign]
    exact bind_eq_some_of_imp (fun _ => tagTokens_of_extends h)
      (fun _ => bind_eq_some_of_imp (fun _ => ih _ _) fun _ => id) hpieces

/-- A template that is cut into pieces is cut into the same ones if more characters have names. -/
theorem piecesOf_of_extends (h : more.Extends characters) {template : Text} {pieces : List Piece}
    (hpieces : piecesOf characters template = some pieces) :
    piecesOf more template = some pieces :=
  piecesFrom_of_extends h hpieces

end HotReload
