import HotReload.Proofs.Activation
import HotReload.Proofs.LineReplacement
import HotReload.Proofs.OpenName
/-!
The name of a component that takes the place of a slot only after its template has been put on
one line.

* `HidesNoSlot` says that no slot begins in what a template prints besides the name;
  `replace_fill`: then the name takes the place of the slots that stand for it, and of nothing else.
* `text_of_direct`: the text of an activation is that of its template with the name, unless the
  template prints a literal of the name, which stays the literal of the slot.
-/

namespace HotReload

/-! ### Slots -/

/-- A part of what is printed when the name takes the place of its slots afterwards. The slot does
not stand in a literal of it, so that the literal stays. -/
def Stretch.late (name : Text) : Stretch → Text
  | .text t => t
  | .name 0 => name
  | .name (literals + 1) => textLiteral^[literals + 1] Activation.slot

/-- What is printed when the name takes the place of its slots afterwards. -/
def fillLate (name : Text) (stretches : List Stretch) : Text :=
  stretches.flatMap (Stretch.late name)

/-- With the slot for a name, no slot begins in a text that is printed besides. -/
def HidesNoSlot (stretches : List Stretch) : Prop :=
  ∀ before t after, stretches = before ++ .text t :: after →
    ∀ head tail, t = head ++ tail → tail ≠ [] →
      ¬ Activation.slot <+: tail ++ fill Activation.slot after

lemma HidesNoSlot.tail {stretch : Stretch} {stretches : List Stretch}
    (h : HidesNoSlot (stretch :: stretches)) : HidesNoSlot stretches :=
  fun before t after hstretches =>
    h (stretch :: before) t after (by rw [hstretches, List.cons_append])

/-- A slot does not begin in a text without its first character. -/
lemma not_slot_prefix {text rest : Text} (hne : text ≠ []) (h : '\x00' ∉ text) :
    ¬ Activation.slot <+: text ++ rest := by
  obtain ⟨c, more, rfl⟩ := List.exists_cons_of_ne_nil hne
  intro hslot
  obtain ⟨rfl, -⟩ := List.cons_prefix_cons.mp hslot
  exact h List.mem_cons_self

lemma hidesNoSlot_of_notMem {stretches : List Stretch}
    (h : ∀ t, Stretch.text t ∈ stretches → '\x00' ∉ t) : HidesNoSlot stretches := by
  rintro before t after rfl head tail rfl hne
  refine not_slot_prefix hne fun hmem => ?_
  exact h _ (List.mem_append_right _ List.mem_cons_self) (List.mem_append_right _ hmem)

/-- The name takes the place of the slots that stand for it, and of nothing else. -/
theorem replace_fill {stretches : List Stretch} (h : HidesNoSlot stretches) (name : Text) :
    Text.replace Activation.slot name (fill Activation.slot stretches) =
      fillLate name stretches := by
  induction stretches with
  | nil => rfl
  | cons stretch stretches ih =>
      show Text.replace _ _ (stretch.fill _ ++ fill _ stretches) =
        stretch.late name ++ fillLate name stretches
      rw [← ih h.tail]
      match stretch with
      | .text t => exact Text.replace_append_of_forall name (h [] t stretches rfl)
      | .name 0 => exact Text.replace_pattern_append ActivationFacts.slot_ne_nil name _
      | .name (n + 1) =>
          -- no part of a literal is the beginning of a slot, as it has no null character in it
          have hplain : IsPlain (textLiteral^[n + 1] Activation.slot) := by
            rw [Function.iterate_succ_apply']
            exact isPlain_codeLiteral _ _
          refine Text.replace_append_of_forall name fun head tail hliteral hne => ?_
          refine not_slot_prefix hne fun hmem => ?_
          have hnull : '\x00' ∈ Stretch.fill Activation.slot (.name (n + 1)) :=
            hliteral ▸ List.mem_append_right head hmem
          exact absurd (hplain _ hnull) (by decide)

/-- Without a literal of the name, it makes no difference when the name is put in. -/
lemma fillLate_eq_fill {stretches : List Stretch} (h : ∀ n, Stretch.name (n + 1) ∉ stretches)
    (name : Text) : fillLate name stretches = fill name stretches := by
  refine List.flatMap_congr fun stretch hstretch => ?_
  match stretch with
  | .text _ | .name 0 => rfl
  | .name (n + 1) => exact absurd hstretch (h n)

/-! ### Activations -/

namespace Activation

variable {a : Activation} {library : TemplateLibrary} {disk : Disk} {name direct : Text}
  {stretches : List Stretch}

/-- The text of an activation with this line for its template. -/
def around (a : Activation) (name line : Text) : Text :=
  a.imports ++ ";" ++ line ++ exportOf name ++ a.injection ++ "\n"

/-- What becomes of a name that is put in afterwards, when the template prints these stretches, and
`direct` with the name itself. -/
structure IsDeferred (a : Activation) (library : TemplateLibrary) (disk : Disk)
    (name direct : Text) (stretches : List Stretch) : Prop where
  /-- It takes the place of all slots that are printed, whether or not they stand for it. -/
  replaces : a.text library disk name =
    .ok (a.around name (Text.replace slot name (fill slot stretches)).flatten)
  /-- No slot is hidden if nothing prints its first character. -/
  hides : '\x00' ∉ direct → HidesNoSlot stretches
  /-- If none is hidden, the name is put where it is printed, and a literal of it is one of the
  slot. -/
  puts : HidesNoSlot stretches →
    a.text library disk name = .ok (a.around name (Text.flatten (fillLate name stretches)))
  /-- If no literal of it is printed either, the line is that of the template with the name. -/
  agrees : HidesNoSlot stretches → (∀ n, Stretch.name (n + 1) ∉ stretches) →
    a.text library disk name = .ok (a.around name direct.flatten)

lemma isWordFor_slot (hname : Text.IsTrimmed name) : Text.IsWordFor slot name where
  nonempty := ActivationFacts.slot_ne_nil
  blanks := by
    have hslot : slot.all (fun c => Text.isBlank c == false) = true := by decide
    exact fun c hc => eq_of_beq (List.all_eq_true.mp hslot c hc)
  trimmed := hname

/-- The text of an activation whose template prints these stretches. -/
lemma text_of_prints (hname : Text.IsTrimmed name) (h : a.Prints library disk stretches) :
    a.text library disk name =
      .ok (a.around name (Text.replace slot name (fill slot stretches)).flatten) := by
  have hslot := h slot ActivationFacts.slot_ne_nil
  have hblock : a.block library disk name =
      .ok (Text.replace slot name (fill slot stretches).flatten) :=
    bind_eq_ok.mpr ⟨_, hslot, rfl⟩
  rw [← (isWordFor_slot hname).replace_flatten]
  exact bind_eq_ok.mpr ⟨_, hblock, rfl⟩

/-- **The name in its place**. When the activation template can be rendered with the name of a
component, what it prints is the same for all names but for the places of the name. Putting the name
in afterwards, on one line, comes to the same as rendering with it, if the template prints no
literal of the name and no slot is hidden in what it prints besides; a literal stays that of
the slot. The name must be one that is kept on a line; the template, the other names and the
values they stand for may be any. -/
theorem text_of_direct (hname : Text.IsTrimmed name)
    (h : a.renderWith library disk activationTemplate (nameBindings name) = .ok direct) :
    (∃ stretches, a.Prints library disk stretches) ∧
      ∀ stretches, a.Prints library disk stretches →
        a.IsDeferred library disk name direct stretches := by
  refine ⟨exists_prints hname.nonempty h, fun stretches hprints => ?_⟩
  have hdirect : fill name stretches = direct :=
    Except.ok.inj ((hprints name hname.nonempty).symm.trans h)
  have htext := text_of_prints hname hprints
  have hputs (hhides : HidesNoSlot stretches) := replace_fill hhides name ▸ htext
  refine
    { replaces := htext
      hides := fun hnull => hidesNoSlot_of_notMem fun t ht hmem => ?_
      puts := hputs
      agrees := fun hhides hno => ?_ }
  · rw [← hdirect] at hnull
    exact hnull (List.mem_flatMap.mpr ⟨_, ht, hmem⟩)
  · rw [hputs hhides, fillLate_eq_fill hno, hdirect]

/-! ### Overridden templates -/

/-- A directory with this text for the activation template. -/
def templateDisk (template : Text) : Disk :=
  { working := []
    entries := [(["t"], .directory), (["t", activationTemplate], .file template.toUtf8)] }

/-- The library with that directory. -/
def templateLibrary : TemplateLibrary := ⟨some (Path.ofText "t"), true, fun _ => none⟩

/-- An activation with nothing but modules. -/
def bareActivation : Activation where
  id := "App.svelte"
  hotApi := "api.js"
  adapter := "adapter.js"
  adapterName := "ADAPTER"

/-- The name under a condition on itself, at the start and at the end of a line. -/
def repeatedName : Text :=
  "\x7b% if component %\x7d\n  \x7b\x7b component \x7d\x7d = f(\x7b\x7b id | js \x7d\x7d,\n" ++
    "  \x7b\x7b component \x7d\x7d\n\x7b% endif %\x7d)"

theorem text_of_direct_repeatedName :
    ∃ direct, Text.IsTrimmed "App" ∧
      bareActivation.renderWith templateLibrary (templateDisk repeatedName) activationTemplate
        (nameBindings "App") = .ok direct ∧
      (∃ stretches, bareActivation.Prints templateLibrary (templateDisk repeatedName) stretches) ∧
        ∀ stretches, bareActivation.Prints templateLibrary (templateDisk repeatedName) stretches →
          bareActivation.IsDeferred templateLibrary (templateDisk repeatedName) "App" direct
            stretches := by
  have hok : (bareActivation.renderWith templateLibrary (templateDisk repeatedName)
      activationTemplate (nameBindings "App")).toOption.any (fun _ => true) = true := by
    decide +kernel
  have hname : Text.IsTrimmed "App" := by decide
  obtain ⟨direct, hdirect, -⟩ := exists_eq_ok_of_any hok
  exact ⟨direct, hname, hdirect, text_of_direct hname hdirect⟩

/-- A literal of the name. -/
def literalName : Text := "\x7b\x7b component | js \x7d\x7d"

/-- It makes a difference when the name is put in, although the name and the values are free of
slots. -/
theorem not_text_agrees :
    ¬ ∀ (a : Activation) (library : TemplateLibrary) (disk : Disk) (name direct : Text),
      Text.IsTrimmed name → ¬ slot <:+: name → (∀ b ∈ a.bindings, ¬ slot <:+: b.2.display) →
      a.renderWith library disk activationTemplate (nameBindings name) = .ok direct →
      a.text library disk name = .ok (a.around name direct.flatten) := by
  intro h
  have hdirect : (bareActivation.renderWith templateLibrary (templateDisk literalName)
      activationTemplate (nameBindings "App")).toOption.any
        (fun direct => direct == "\"App\"".toList) = true := by
    decide +kernel
  have htext : (bareActivation.text templateLibrary (templateDisk literalName) "App").toOption.any
      (fun text => text == bareActivation.around "App" "\"\\u0000component\\u0000\"") = true := by
    decide +kernel
  obtain ⟨direct, hdirect, hsame⟩ := exists_eq_ok_of_any hdirect
  obtain ⟨text, htext, hline⟩ := exists_eq_ok_of_any htext
  obtain rfl := eq_of_beq hsame
  obtain rfl := eq_of_beq hline
  have hagrees := h bareActivation templateLibrary (templateDisk literalName) "App" _ (by decide)
    (by decide) (by decide +kernel) hdirect
  exact absurd (Except.ok.inj (htext.symm.trans hagrees)) (by decide +kernel)

end Activation

end HotReload
