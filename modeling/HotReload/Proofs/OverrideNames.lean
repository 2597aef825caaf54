import HotReload.Proofs.Disk
import HotReload.Proofs.Lines
import HotReload.Proofs.Utf8
import HotReload.Template.Library
/-!
Names of templates, and the override directory.

* `TakesOverride`: the template of a name is read from a file of the override directory.
* `lookup_of_lookup_append`: a path with parts behind it leads somewhere only if the path itself
  leads to a directory.
* `templateParts?_eq`: a name has the parts that it has as a path.
* `takesOverride_iff`: so a template is read from the override directory just if the parts of its
  name lead to a file there, whether or not the directory has been searched for.
* `isOverridden_iff_takesOverride`: asking whether a name is overridden tells this for names that
  lead below the directory (`NamesBelow`).
-/

namespace HotReload

/-! ### Paths with parts behind them -/

namespace Disk

variable {disk : Disk} {path : Path} {parts more : List Text} {shown : Text}
  {start location : Location}

lemma holds_eq_ok_true_iff {isKind : Entry → Bool} :
    disk.holds path isKind = .ok true ↔
      ∃ entry, disk.lookup path = .ok entry ∧ isKind entry = true := by
  rw [holds]
  constructor
  · intro h
    split at h
    · next entry hentry => exact ⟨entry, hentry, Except.ok.inj h⟩
    · exact absurd h (by simp)
    · exact absurd h (by simp)
  · rintro ⟨entry, hentry, hkind⟩
    rw [hentry, ← hkind]

lemma hasFile_eq_ok_true_iff :
    disk.hasFile path = .ok true ↔ ∃ content, disk.lookup path = .ok (.file content) := by
  rw [hasFile, holds_eq_ok_true_iff]
  constructor
  · rintro ⟨entry, hentry, hkind⟩
    cases entry with
    | file content => exact ⟨content, hentry⟩
    | directory => exact absurd hkind (by decide)
  · rintro ⟨content, hcontent⟩
    exact ⟨.file content, hcontent, rfl⟩

lemma hasDirectory_eq_ok_true_iff :
    disk.hasDirectory path = .ok true ↔ disk.lookup path = .ok .directory := by
  rw [hasDirectory, holds_eq_ok_true_iff]
  constructor
  · rintro ⟨entry, hentry, hkind⟩
    rw [hentry, eq_of_beq hkind]
  · exact fun h => ⟨.directory, h, rfl⟩

lemma lookup_eq_ok_iff {entry : Entry} :
    disk.lookup path = .ok entry ↔
      ∃ location, disk.locate path = .ok location ∧ disk.entryAt location = some entry := by
  refine bind_eq_ok.trans (exists_congr fun location => and_congr_right fun _ => ?_)
  cases disk.entryAt location with
  | none => simp [throw, throwThe, MonadExceptOf.throw]
  | some other => simp [pure, Except.pure]

/-- A way goes on only from a directory. -/
lemma entryAt_of_walk (hmore : more ≠ []) (h : disk.walk shown start more = .ok location) :
    disk.entryAt start = some .directory := by
  cases more with
  | nil => exact absurd rfl hmore
  | cons part more =>
      rw [walk] at h
      split at h
      · assumption
      · exact absurd h (by simp)
      · exact absurd h (by simp)

/-- A way can be gone in two parts, and the path that is shown does not matter. -/
lemma exists_walk_of_walk_append (h : disk.walk shown start (parts ++ more) = .ok location)
    (other : Text) :
    ∃ middle, disk.walk other start parts = .ok middle ∧
      disk.walk shown middle more = .ok location := by
  induction parts generalizing start with
  | nil => exact ⟨start, rfl, h⟩
  | cons part parts ih =>
      have hstart : disk.entryAt start = some .directory :=
        entryAt_of_walk (List.cons_ne_nil part (parts ++ more)) h
      rw [List.cons_append, walk, hstart] at h
      rw [walk, hstart]
      dsimp only at h ⊢
      split_ifs at h ⊢ with hup hlong
      · exact ih h
      · exact ih h

/-- With parts behind it, a path does not get shorter, but for the path without parts, which is
shown as a point. -/
lemma length_text_le (path : Path) (hmore : more ≠ []) :
    path.text.toUtf8.length ≤ 1 ∨
      path.text.toUtf8.length ≤ (path.append ⟨[], more⟩).text.toUtf8.length := by
  obtain ⟨root, parts⟩ := path
  by_cases hempty : root = [] ∧ parts = []
  · refine .inl ?_
    rw [Path.text, if_pos hempty]
    decide
  · refine .inr ?_
    have hlonger : ¬ (root = [] ∧ parts ++ more = []) := fun h =>
      hmore (List.append_eq_nil_iff.mp h.2).2
    rw [Path.text, if_neg hempty, Path.append, if_pos rfl, Path.text, if_neg hlonger]
    by_cases hparts : parts = []
    · rw [hparts, Text.join, List.append_nil, toUtf8_append, List.length_append]
      exact Nat.le_add_right _ _
    · rw [Text.join_append_of_ne_nil ['/'] hparts hmore, List.append_assoc, ← List.append_assoc,
        toUtf8_append _ (_ ++ _), List.length_append]
      exact Nat.le_add_right _ _

/-- The place from which a path is followed. -/
def startOf (disk : Disk) (path : Path) : Location := if path.root = [] then disk.working else []

lemma locate_eq_ok_iff :
    disk.locate path = .ok location ↔
      path.hasNull = false ∧ path.text.toUtf8.length ≤ mostPathBytes ∧
        disk.walk path.text (disk.startOf path) path.parts = .ok location := by
  rw [locate, ← startOf]
  by_cases hnull : path.hasNull = true
  · simp [hnull]
  · by_cases hlong : mostPathBytes < path.text.toUtf8.length
    · simp [hnull, hlong, Nat.not_le_of_lt hlong]
    · simp [hnull, hlong, Nat.le_of_not_lt hlong]

/-- Where a path leads with more parts behind it, the path itself leads to a directory. -/
lemma lookup_of_lookup_append {entry : Entry} (hmore : more ≠ [])
    (h : disk.lookup (path.append ⟨[], more⟩) = .ok entry) :
    disk.lookup path = .ok .directory := by
  obtain ⟨location, hlocation, -⟩ := lookup_eq_ok_iff.mp h
  obtain ⟨hnull, hlong, hwalk⟩ := locate_eq_ok_iff.mp hlocation
  obtain ⟨middle, hmiddle, hgoes⟩ := exists_walk_of_walk_append hwalk path.text
  refine lookup_eq_ok_iff.mpr ⟨middle, locate_eq_ok_iff.mpr ⟨?_, ?_, hmiddle⟩,
    entryAt_of_walk hmore hgoes⟩
  · rw [Path.hasNull, Path.append, if_pos rfl, List.any_append, Bool.or_eq_false_iff] at hnull
    exact hnull.1
  · have hbound : 1 ≤ mostPathBytes := by decide
    rcases length_text_le path hmore with hlength | hlength
    · exact hlength.trans hbound
    · exact hlength.trans hlong

end Disk

/-! ### The parts of a name -/

/-- A name has the parts that it has as a path, or none if one of them is a double point. -/
lemma templateParts?_eq (name : Text) :
    templateParts? name =
      if ['.', '.'] ∈ (Path.ofText name).parts then none else some (Path.ofText name).parts := by
  have hup : ((Text.split '/' name).any (· == ['.', '.'])) = true ↔
      ['.', '.'] ∈ (Path.ofText name).parts := by
    rw [List.any_beq', List.contains_iff_mem, Path.ofText, List.mem_filter]
    exact ⟨fun h => ⟨h, by decide⟩, fun h => h.1⟩
  rw [templateParts?]
  by_cases h : ['.', '.'] ∈ (Path.ofText name).parts
  · rw [if_pos (hup.mpr h), if_pos h]
  · rw [if_neg (mt hup.mp h), if_neg h]
    rfl

namespace TemplateLibrary

variable {library : TemplateLibrary} {disk : Disk} {characters : CharacterNames}
variable {directory : Option Path} {name : Text}

/-- The template of a name is read from a file of the override directory. -/
def TakesOverride (library : TemplateLibrary) (disk : Disk) (name : Text) : Prop :=
  ∃ content, library.origin? disk name = some (.override content)

/-- A name that leads below a directory: no slash stands in front of it, no double point is a part
of it, and there is a part. -/
structure NamesBelow (name : Text) : Prop where
  relative : (Path.ofText name).root = []
  noUp : ['.', '.'] ∉ (Path.ofText name).parts
  nonempty : (Path.ofText name).parts ≠ []

/-- A library knows its directory, and searches it if it is there. -/
lemma opened_eq_ok (h : (opened disk characters directory).result = .ok library) :
    library.directory = directory ∧
      (library.searched = true ↔ ∃ path ∈ directory, disk.hasDirectory path = .ok true) := by
  cases directory with
  | none =>
      obtain rfl : builtIn = library := Except.ok.inj h
      exact ⟨rfl, by simp [builtIn]⟩
  | some path =>
      obtain ⟨found, hfound, h⟩ := Run.bind_eq_ok.mp h
      have hdirectory : disk.hasDirectory path = .ok found := mapError_eq_ok.mp hfound
      cases found with
      | true =>
          obtain ⟨-, -, h⟩ := Run.bind_eq_ok.mp h
          obtain rfl : ⟨some path, true, characters⟩ = library := Except.ok.inj h
          exact ⟨rfl, by simp [hdirectory]⟩
      | false =>
          obtain ⟨-, -, h⟩ := Run.bind_eq_ok.mp h
          obtain rfl : ⟨some path, false, characters⟩ = library := Except.ok.inj h
          exact ⟨rfl, by simp [hdirectory]⟩

lemma overrideContent?_eq_some_iff {parts : List Text} {content : List UInt8} :
    library.overrideContent? disk parts = some content ↔
      library.searched = true ∧ ∃ path ∈ library.directory,
        disk.lookup (path.append ⟨[], parts⟩) = .ok (.file content) := by
  obtain ⟨directory, searched⟩ := library
  rw [overrideContent?]
  cases searched with
  | false => simp
  | true =>
      cases directory with
      | none => simp
      | some path =>
          simp only [Option.mem_some_iff, exists_eq_left', true_and]
          constructor
          · intro h
            split at h
            · next hlookup => rw [hlookup, Option.some.inj h]
            · exact absurd h (by simp)
          · intro h
            rw [h]

/-- A template is read from the override directory if its name has parts, no double point among
them, and these lead to a file there. Then the directory was there when the library was opened. -/
theorem takesOverride_iff (hopened : (opened disk characters directory).result = .ok library) :
    library.TakesOverride disk name ↔
      ['.', '.'] ∉ (Path.ofText name).parts ∧ (Path.ofText name).parts ≠ [] ∧
        ∃ path ∈ directory,
          disk.hasFile (path.append ⟨[], (Path.ofText name).parts⟩) = .ok true := by
  obtain ⟨rfl, hsearched⟩ := opened_eq_ok hopened
  rw [TakesOverride, origin?.eq_def, templateParts?_eq]
  by_cases hup : ['.', '.'] ∈ (Path.ofText name).parts
  · simp [hup]
  · rw [if_neg hup]
    constructor
    · rintro ⟨content, horigin⟩
      dsimp only at horigin
      split at horigin
      · next found hfound =>
          obtain ⟨hfirst, path, hpath, hlookup⟩ := overrideContent?_eq_some_iff.mp hfound
          refine ⟨hup, fun hnone => ?_, path, hpath, Disk.hasFile_eq_ok_true_iff.mpr ⟨_, hlookup⟩⟩
          -- a directory that is searched is no file
          obtain ⟨searched, hmem, hdirectory⟩ := hsearched.mp hfirst
          obtain rfl : path = searched := Option.mem_unique hpath hmem
          rw [hnone, Path.append, if_pos rfl, List.append_nil] at hlookup
          rw [Disk.hasDirectory_eq_ok_true_iff, hlookup] at hdirectory
          exact absurd hdirectory (by simp)
      · exact absurd horigin (by simp)
    -- the directory of a file that is found is there, and so it is searched
    · rintro ⟨-, hnonempty, path, hpath, hfile⟩
      obtain ⟨content, hcontent⟩ := Disk.hasFile_eq_ok_true_iff.mp hfile
      have hdirectory : disk.hasDirectory path = .ok true :=
        Disk.hasDirectory_eq_ok_true_iff.mpr
          (Disk.lookup_of_lookup_append hnonempty hcontent)
      have hfound : library.overrideContent? disk (Path.ofText name).parts = some content :=
        overrideContent?_eq_some_iff.mpr ⟨hsearched.mpr ⟨path, hpath, hdirectory⟩, path, hpath,
          hcontent⟩
      exact ⟨content, by simp only [hfound]⟩

lemma isOverridden_iff (hopened : (opened disk characters directory).result = .ok library) :
    library.isOverridden disk name = .ok true ↔
      ∃ path ∈ directory, disk.hasFile (path.append (Path.ofText name)) = .ok true := by
  obtain ⟨rfl, -⟩ := opened_eq_ok hopened
  rw [isOverridden]
  cases library.directory with
  | none => simp
  | some path => simp

/-- **Overridden names**. Whether a name is overridden tells where its template is read from if the
name leads below the override directory, and then a template that is overridden is rendered from
the file there. For other names the two differ: a template is read from the directory if the parts
of its name lead to a file there, also behind a slash, but never by way of a double point and never
without parts; and a name is overridden if it leads to a file as a path, which it does without the
directory if a slash stands in front of it. -/
theorem isOverridden_iff_takesOverride
    (hopened : (opened disk characters directory).result = .ok library) (name : Text) :
    (NamesBelow name →
        (library.isOverridden disk name = .ok true ↔ library.TakesOverride disk name)) ∧
      (library.isOverridden disk name = .ok true ↔
        ∃ path ∈ directory, disk.hasFile
          (if (Path.ofText name).root = [] then ⟨path.root, path.parts ++ (Path.ofText name).parts⟩
            else Path.ofText name) = .ok true) ∧
      (library.TakesOverride disk name ↔
        ['.', '.'] ∉ (Path.ofText name).parts ∧ (Path.ofText name).parts ≠ [] ∧
          ∃ path ∈ directory,
            disk.hasFile ⟨path.root, path.parts ++ (Path.ofText name).parts⟩ = .ok true) ∧
      ∀ content bindings, library.origin? disk name = some (.override content) →
        library.render disk name bindings =
          ((TemplateOrigin.text (.override content)).bind (readTemplate library.characters)).bind
            (renderTemplate name bindings) := by
  have htakes : library.TakesOverride disk name ↔ _ := takesOverride_iff hopened
  refine ⟨fun hbelow => ?_, isOverridden_iff hopened, htakes, fun content bindings horigin => ?_⟩
  · have hname : Path.ofText name = ⟨[], (Path.ofText name).parts⟩ := by
      rw [← hbelow.relative]
    rw [isOverridden_iff hopened, htakes, ← hname]
    exact ⟨fun h => ⟨hbelow.noUp, hbelow.nonempty, h⟩, fun h => h.2.2⟩
  · rw [render, template, horigin]
    rfl

/-- A disk with an override of the activation template in the directory `t`, and the library that
is opened for it when no characters have names. -/
def overrideDisk : Disk :=
  { working := [], entries := [(["t"], .directory), (["t", "apply_hmr.js.j2"], .file [0x78])] }

def overrideLibrary : TemplateLibrary := ⟨some ⟨[], ["t"]⟩, true, fun _ => none⟩

lemma opened_overrideDisk :
    (opened overrideDisk (fun _ => none) (some ⟨[], ["t"]⟩)).result = .ok overrideLibrary := by
  rfl

theorem takesOverride_overrideLibrary :
    (opened overrideDisk (fun _ => none) (some ⟨[], ["t"]⟩)).result = .ok overrideLibrary ∧
      NamesBelow "./apply_hmr.js.j2/" ∧
      overrideLibrary.isOverridden overrideDisk "./apply_hmr.js.j2/" = .ok true ∧
      overrideLibrary.TakesOverride overrideDisk "./apply_hmr.js.j2/" := by
  have hbelow : NamesBelow "./apply_hmr.js.j2/" := by
    exact ⟨by decide, by decide, by decide⟩
  have hoverridden : overrideLibrary.isOverridden overrideDisk "./apply_hmr.js.j2/" = .ok true := by
    decide +kernel
  exact ⟨opened_overrideDisk, hbelow, hoverridden,
    ((isOverridden_iff_takesOverride opened_overrideDisk "./apply_hmr.js.j2/").1 hbelow).mp
      hoverridden⟩

/-- Behind a slash, the name of a file in the override directory is read from there, but as a path
it leads to the top of the disk. -/
theorem not_isOverridden_iff_takesOverride :
    ¬ ∀ (disk : Disk) (characters : CharacterNames) (directory : Option Path)
        (library : TemplateLibrary) (name : Text),
      (opened disk characters directory).result = .ok library →
      (library.isOverridden disk name = .ok true ↔ library.TakesOverride disk name) := by
  intro h
  have htakes : overrideLibrary.TakesOverride overrideDisk "/apply_hmr.js.j2" :=
    ⟨[0x78], by rfl⟩
  have hnot : overrideLibrary.isOverridden overrideDisk "/apply_hmr.js.j2" = .ok false := by
    decide +kernel
  rw [(h _ _ _ _ _ opened_overrideDisk).mpr htakes] at hnot
  exact absurd hnot (by decide)

end TemplateLibrary

end HotReload
