import Mathlib.Data.List.Infix
import HotReload.Proofs.Merging
import HotReload.Proofs.Runs
/-!
The marker in the source of a component.

* `Text.includes_iff`: a text occurs in another just if that one has it for a part.
* `IsDropped`: the options say that no state is kept, or the marker stands in the source.
  `exists_resolve_eq`: resolving settles this flag, and leaves all else as it was merged.
* `IsDropped.mono`, `resolve_withFlag`: a flag that is set stays set in a longer source, and
  resolving once more changes nothing.
* `result_transform_congr`: a component shows no more of its source than its resolved options.
* `resolve_settles_marker` has all of this (`IsSettled`).
-/

namespace HotReload

/-- A text occurs in another one just if it is a part of it. -/
lemma Text.includes_iff {pattern text : Text} :
    Text.includes pattern text = true ↔ pattern <:+: text := by
  rw [includes]
  induction text with
  | nil => cases pattern <;> simp [cut?]
  | cons c rest ih =>
      rw [cut?, List.infix_cons_iff, ← ih]
      split
      · next hpre => simp [List.isPrefixOf_iff_prefix.mp hpre]
      · next hpre =>
          rw [Option.isSome_map, List.isPrefixOf_iff_prefix] at *
          simp [hpre]

namespace HotOptions

open Transformer (ofText?)

variable {defaults merged : HotOptions} {overrides : Value} {marker : Text}

/-! ### The flag -/

/-- The state of a component is dropped: the merged options say so, or the marker is not empty and
stands in the source. -/
def IsDropped (merged : HotOptions) (marker : Text) (source : Option Text) : Prop :=
  (merged.get .noPreserveState).isTruthy = true ∨
    (marker ≠ [] ∧ ∃ text, source = some text ∧ marker <:+: text)

/-- A source is part of another one; a missing source is part of all. -/
def IsPartOf (source wider : Option Text) : Prop :=
  ∀ text, source = some text → ∃ more, wider = some more ∧ text <:+: more

lemma IsDropped.mono {source wider : Option Text} (h : IsDropped merged marker source)
    (hpart : IsPartOf source wider) : IsDropped merged marker wider := by
  refine h.imp_right fun ⟨hmarker, text, hsource, hfound⟩ => ?_
  obtain ⟨more, hwider, htext⟩ := hpart text hsource
  exact ⟨hmarker, more, hwider, hfound.trans htext⟩

/-- The options with the flag that resolving has found. -/
def withFlag (merged : HotOptions) (flag : Bool) : HotOptions :=
  merged.set .noPreserveState (.bool flag)

lemma get_withFlag (flag : Bool) : (merged.withFlag flag).get .noPreserveState = .bool flag :=
  get_set_self merged .noPreserveState (.bool flag)

lemma get_key_withFlag (flag : Bool) :
    (merged.withFlag flag).get .noPreserveStateKey = merged.get .noPreserveStateKey :=
  get_set_of_ne merged (.bool flag) (by decide)

lemma withFlag_injective : Function.Injective merged.withFlag := by
  intro flag flag' h
  have hget := congrArg (·.get .noPreserveState) h
  simp only [get_withFlag] at hget
  exact Value.bool.inj hget

/-- The flag that is written last counts. -/
lemma withFlag_withFlag (flag flag' : Bool) :
    (merged.withFlag flag).withFlag flag' = merged.withFlag flag' := by
  rw [withFlag, withFlag, withFlag, set, set, set]
  congr 1
  funext f
  by_cases h : f = .noPreserveState <;> simp [h]

/-! ### Resolving -/

/-- A marker is looked for in a text. -/
lemma exists_escapes_eq (marker : Text) (source : Option Text) :
    ∃ escaped, escapes (.str marker) (ofText? source) = .ok escaped ∧
      (escaped = true ↔ marker ≠ [] ∧ ∃ text, source = some text ∧ marker <:+: text) := by
  have hmarker : (Value.str marker).isTruthy = true ↔ marker ≠ [] := by simp [Value.isTruthy]
  rw [escapes]
  split
  · next h =>
      rw [Bool.and_eq_true, hmarker] at h
      cases source with
      | none => exact absurd h.2 (by simp [ofText?, Value.isTruthy])
      | some text => exact ⟨_, rfl, by simp [Text.includes_iff, h.1]⟩
  · next h =>
      refine ⟨false, rfl, by simp, ?_⟩
      rintro ⟨hne, text, rfl, hfound⟩
      rw [Bool.and_eq_true, hmarker] at h
      refine absurd ⟨hne, ?_⟩ h
      cases text with
      | nil => exact absurd (List.infix_nil.mp hfound) hne
      | cons c text => rfl

/-- Resolving settles the flag, and leaves all else as it was merged. -/
lemma exists_resolve_eq (hmerge : defaults.merge overrides = .ok merged)
    (hmarker : merged.get .noPreserveStateKey = .str marker) (source : Option Text) :
    ∃ flag, (flag = true ↔ IsDropped merged marker source) ∧
      (defaults.resolve overrides (ofText? source)).result = .ok (merged.withFlag flag) := by
  obtain ⟨escaped, hescapes, hescaped⟩ := exists_escapes_eq marker source
  refine ⟨(merged.get .noPreserveState).isTruthy || escaped, ?_, ?_⟩
  · rw [Bool.or_eq_true, hescaped, IsDropped]
  · rw [result_resolve, hmerge, Except.bind, hmarker, hescapes]
    rfl

lemma merge_of_falsy (options : HotOptions) {none : Value} (h : none.isTruthy = false) :
    options.merge none = .ok options := by
  rw [merge_of_isOverrides options (.inl h), entries_of_falsy h]
  rfl

/-- What has been resolved stays the same when it is resolved for the same source again. -/
lemma resolve_withFlag (hmarker : merged.get .noPreserveStateKey = .str marker)
    {source : Option Text} {flag : Bool} (hflag : flag = true ↔ IsDropped merged marker source)
    {none : Value} (hnone : none.isTruthy = false) :
    ((merged.withFlag flag).resolve none (ofText? source)).result = .ok (merged.withFlag flag) := by
  obtain ⟨again, hagain, hresolve⟩ := exists_resolve_eq
    (merge_of_falsy (merged.withFlag flag) hnone) ((get_key_withFlag flag).trans hmarker) source
  have hsame : again = flag := by
    rw [Bool.eq_iff_iff, hagain, IsDropped, get_withFlag]
    exact ⟨fun h => h.elim id fun h => hflag.mpr (.inr h), .inl⟩
  rw [hresolve, withFlag_withFlag, hsame]

/-! ### What a source shows -/

/-- A component is made hot from its resolved options, and from nothing else of its source. -/
lemma result_transform_congr {t : Transformer} {component : Component} {source source' : Value}
    (h : (t.defaults.resolve component.hotOptions source).result =
      (t.defaults.resolve component.hotOptions source').result) (disk : Disk) :
    (t.transform disk { component with source := source }).result =
      (t.transform disk { component with source := source' }).result := by
  simp only [Transformer.transform, Transformer.activation, Transformer.codeOf, Run.result_bind, h]

/-- What a marker does when options are resolved. -/
structure IsSettled (defaults : HotOptions) (overrides : Value) (merged : HotOptions)
    (marker : Text) : Prop where
  /-- Resolving gives the merged options but for the flag, which is the truth value that tells
  whether the state is dropped. -/
  resolves : ∀ source, ∃ flag, (flag = true ↔ IsDropped merged marker source) ∧
    (defaults.resolve overrides (ofText? source)).result =
      .ok (merged.set .noPreserveState (.bool flag))
  /-- Resolving once more, for the same source and without overrides, changes nothing. -/
  again : ∀ source resolved, (defaults.resolve overrides (ofText? source)).result = .ok resolved →
    ∀ none : Value, none.isTruthy = false →
      (resolved.resolve none (ofText? source)).result = .ok resolved
  /-- A flag that is set stays set in every source that has this one for a part. -/
  stays : ∀ source wider, IsPartOf source wider →
    (defaults.resolve overrides (ofText? source)).result =
      .ok (merged.set .noPreserveState (.bool true)) →
    (defaults.resolve overrides (ofText? wider)).result =
      .ok (merged.set .noPreserveState (.bool true))
  /-- Of two sources that lead to the same flag, a transformer makes the same code. -/
  shows : ∀ (t : Transformer) (component : Component), t.defaults = defaults →
    component.hotOptions = overrides →
    ∀ source source' resolved resolved', (defaults.resolve overrides source).result = .ok resolved →
      (defaults.resolve overrides source').result = .ok resolved' →
      resolved.get .noPreserveState = resolved'.get .noPreserveState →
      ∀ disk, (t.transform disk { component with source := source }).result =
        (t.transform disk { component with source := source' }).result

/-- **The marker in the source**. When overrides have been merged and the marker is a text,
resolving succeeds for every source. It changes nothing but one flag, which is set just if it was
set before or the marker stands in the source; it keeps the flag when it is done again or for a
longer source; and the flag is all that code shows of a source. -/
theorem resolve_settles_marker (hmerge : defaults.merge overrides = .ok merged)
    (hmarker : merged.get .noPreserveStateKey = .str marker) :
    IsSettled defaults overrides merged marker where
  resolves := exists_resolve_eq hmerge hmarker
  again source resolved hresolved none hnone := by
    obtain ⟨flag, hflag, hresolve⟩ := exists_resolve_eq hmerge hmarker source
    obtain rfl := Except.ok.inj (hresolve.symm.trans hresolved)
    exact resolve_withFlag hmarker hflag hnone
  stays source wider hpart hset := by
    obtain ⟨flag, hflag, hresolve⟩ := exists_resolve_eq hmerge hmarker source
    obtain ⟨flag', hflag', hresolve'⟩ := exists_resolve_eq hmerge hmarker wider
    have hsame : merged.withFlag flag = merged.withFlag true :=
      Except.ok.inj (hresolve.symm.trans hset)
    obtain rfl : flag = true := withFlag_injective hsame
    rw [hresolve', hflag'.mpr ((hflag.mp rfl).mono hpart), withFlag]
  shows := by
    rintro t component rfl rfl source source' resolved resolved' hresolve hresolve' hsame disk
    -- two runs whose resolved options are the same go on in the same way
    refine result_transform_congr ?_ disk
    rw [hresolve, hresolve']
    rw [result_resolve, hmerge, Except.bind] at hresolve hresolve'
    obtain ⟨escaped, -, hresolved⟩ := bind_eq_ok.mp hresolve
    obtain ⟨escaped', -, hresolved'⟩ := bind_eq_ok.mp hresolve'
    obtain rfl := Except.ok.inj hresolved
    obtain rfl := Except.ok.inj hresolved'
    rw [get_set_self, get_set_self] at hsame
    rw [Value.bool.inj hsame]

/-- Overrides with a marker of their own, and with a flag that counts as false. -/
def markerOverrides : Mapping :=
  [(.str "noPreserveStateKey", "#reset"), (.str "no_preserve_state", .int 0)]

theorem resolve_settles_marker_markerOverrides :
    HotOptions.default.merge (.map markerOverrides) =
        .ok (HotOptions.default.writeAll markerOverrides) ∧
      (HotOptions.default.writeAll markerOverrides).get .noPreserveStateKey = .str "#reset" ∧
      IsSettled HotOptions.default (.map markerOverrides)
        (HotOptions.default.writeAll markerOverrides) "#reset" :=
  ⟨rfl, rfl, resolve_settles_marker rfl rfl⟩

end HotOptions

end HotReload
