import HotReload.Proofs.CompiledFile
import HotReload.Proofs.SavedFile
import HotReload.Proofs.StyleSequences
/-!
The files that a command may change.

* `Command.target?`: the file that a command writes, if it writes one.
* `BreaksOff`: what a command leaves of its file if it cannot write it to the end.
* `ChangesTarget`: what may become of the files, and of the code that is written.
* `changesTarget_runArguments`: so it is for whatever arguments.
* `not_runArguments_writes_printed`: the code in the file is not always what is printed without one.
-/

namespace HotReload

variable {disk : Disk} {installation : Installation} {markup : Markup} {command : Command}
  {a : TransformArguments} {path : Path} {force : Bool}

/-- The file that a command writes. -/
def Command.target? (disk : Disk) : Command → Option Path
  | .init _ => some (localConfig disk)
  | .transform a => a.output
  | _ => none

/-! ### The default configuration -/

/-- The default configuration has a form. -/
lemma fault_default : (tomlDocument (Config.toMapping {})).fault = none := by decide +kernel

lemma runInit_of_has (h : disk.has (localConfig disk) = .ok true) :
    (runInit disk false).disk = disk := by
  simp [runInit, h]

/-- Unless a configuration file is in the way, `init` is a save, and succeeds if the save does. -/
lemma saveEnd_runInit (disk : Disk) (force : Bool) :
    (runInit disk force).disk = disk ∧ (runInit disk force).status = 1 ∨
      ∃ result, Config.SaveEnd {} disk (localConfig disk) (runInit disk force).disk result ∧
        ((runInit disk force).status = 0 ↔ result = .ok ()) := by
  have hend := Config.saveEnd_save {} disk (localConfig disk)
  rw [runInit]
  dsimp only
  split_ifs
  · exact .inl ⟨rfl, rfl⟩
  · right
    cases hresult : (Config.save {} disk (localConfig disk)).2.result with
    | ok =>
        rw [hresult] at hend
        exact ⟨_, hend, by simp⟩
    | error failure =>
        rw [hresult] at hend
        refine ⟨.error failure, ?_, ?_⟩
        · cases hreport : failure.report? <;> simpa [hreport] using hend
        · cases hreport : failure.report? <;> simp [hreport]

/-- The bytes of the default configuration. -/
def defaultBytes : List UInt8 := Config.bytes {}

/-- A default configuration that is not written in full is not begun either, if there is room. -/
lemma keepsFiles_or_leaves_runInit (h : (runInit disk force).status ≠ 0) :
    disk.KeepsFiles (runInit disk force).disk ∨
      disk.fitting defaultBytes ≠ defaultBytes ∧
        disk.Leaves (runInit disk force).disk (localConfig disk) (disk.fitting defaultBytes) := by
  obtain ⟨hdisk, -⟩ | ⟨result, hend, hstatus⟩ := saveEnd_runInit disk force
  · rw [hdisk]
    exact .inl (.refl disk)
  · cases hend with
    | directories _ hfiles => exact .inl hfiles
    | opening _ _ hfiles => exact .inl hfiles
    | full hcut hfiles => exact .inr ⟨hcut, hfiles⟩
    | writing hfault => exact absurd (fault_default.symm.trans hfault) (by simp)
    | complete => exact absurd (hstatus.mpr rfl) h

/-- A default configuration that is written has room, and touches no other file. -/
lemma leaves_runInit (h : (runInit disk force).status = 0) :
    disk.fitting defaultBytes = defaultBytes ∧
      disk.Leaves (runInit disk force).disk (localConfig disk) defaultBytes := by
  obtain ⟨-, hstatus⟩ | ⟨result, hend, hstatus⟩ := saveEnd_runInit disk force
  · exact absurd (h.symm.trans hstatus) zero_ne_one
  · obtain rfl := hstatus.mp h
    cases hend with
    | complete _ hfits hfiles => exact ⟨hfits, hfiles⟩

/-! ### The commands -/

/-- What a command leaves of its file if it has opened it and cannot write it to the end. -/
inductive BreaksOff (disk : Disk) (installation : Installation) :
    Command → Path → List UInt8 → Prop where
  /-- There is no room for the default configuration. -/
  | config (force : Bool) (hcut : disk.fitting defaultBytes ≠ defaultBytes) :
      BreaksOff disk installation (.init force) (localConfig disk) (disk.fitting defaultBytes)
  /-- There is no room for the code. -/
  | code {a : TransformArguments} {path : Path} {code : Text} (houtput : a.output = some path)
      (hcode : (hotCode disk installation a).result = .ok code)
      (hcut : disk.fitting code.toUtf8 ≠ code.toUtf8) :
      BreaksOff disk installation (.transform a) path (disk.fitting code.toUtf8)
  /-- The code has a surrogate in it, and so no form in UTF-8. -/
  | halved {a : TransformArguments} {path : Path} (houtput : a.output = some path)
      (hcode : (hotCode disk installation a).result = .error .halved) :
      BreaksOff disk installation (.transform a) path []

/-- A run of `transform` that fails has not opened its file, or has broken off. -/
lemma disk_or_breaksOff_transform
    (h : ((Command.transform a).execute disk installation markup).status ≠ 0) :
    ((Command.transform a).execute disk installation markup).disk = disk ∨
      ∃ path content, BreaksOff disk installation (.transform a) path content ∧
        disk.Leaves ((Command.transform a).execute disk installation markup).disk path
          content := by
  cases houtput : a.output with
  | none =>
      left
      rw [Command.execute, houtput]
      exact Outcome.disk_ofRun fun code => by cases code <;> rfl
  | some path =>
      obtain ⟨hdisk, -⟩ | ⟨code, hcode, hend⟩ := failed_or_delivered markup houtput
      · exact .inl hdisk
      -- an end with the status zero is excluded, and the others name what is left of the file
      · cases hend with
        | unopened hdisk => exact .inl hdisk
        | cut hwrite hcut =>
            have hbreaks := BreaksOff.code houtput (result_code?_eq_some_iff.mp hcode) hcut
            exact .inr ⟨_, _, hbreaks, Disk.leaves_of_write hwrite⟩
        | halved hwrite =>
            have hbreaks := BreaksOff.halved houtput (result_code?_eq_none_iff.mp hcode)
            exact .inr ⟨_, _, hbreaks, Disk.leaves_of_write hwrite⟩
        | whole _ _ hstatus => exact absurd hstatus h

/-- A command that breaks off fails. -/
lemma BreaksOff.status_ne_zero {content : List UInt8}
    (h : BreaksOff disk installation command path content) (markup : Markup) :
    (command.execute disk installation markup).status ≠ 0 := by
  intro hstatus
  cases h with
  | config _ hcut => exact hcut (leaves_runInit hstatus).1
  | code houtput hcode hcut =>
      obtain ⟨-, hfailed⟩ | ⟨code', hcode', hend⟩ := failed_or_delivered markup houtput
      · exact absurd (hstatus.symm.trans hfailed) zero_ne_one
      · rw [result_code?_eq_some_iff.mpr hcode] at hcode'
        obtain rfl := Except.ok.inj hcode'
        cases hend with
        | unopened _ hfailed | cut _ _ hfailed =>
            exact absurd (hstatus.symm.trans hfailed) zero_ne_one
        | whole _ hfits => exact hcut hfits
  | halved houtput hcode =>
      obtain ⟨out, hout, -⟩ := exists_write_of_status houtput hstatus
      rw [hcode] at hout
      exact absurd hout (by simp)

/-- A command that writes no file leaves the disk as it is. -/
lemma disk_execute_of_target (h : command.target? disk = none) :
    (command.execute disk installation markup).disk = disk := by
  cases command with
  | help => rfl
  | version => rfl
  | init force => exact absurd h (by simp [Command.target?])
  | transform a =>
      have houtput : a.output = none := h
      rw [Command.execute, houtput]
      exact Outcome.disk_ofRun fun code => by cases code <;> rfl
  | css file => exact Outcome.disk_ofRun fun _ => rfl
  | options source config => exact Outcome.disk_ofRun fun _ => rfl

/-- The same code is made hot whether or not it goes into a file. -/
lemma execute_transform_of_hotCode {code : Text} (markup : Markup)
    (h : (hotCode disk installation a).result = .ok code) :
    ((Command.transform { a with output := none }).execute disk installation markup).status =
        0 ∧
      ((Command.transform { a with output := none }).execute disk installation markup).out =
        withoutStyles code := by
  have hnone : (hotCode disk installation { a with output := none }).result = .ok code := h
  rw [Command.execute, Outcome.ofRun_of_ok (result_code?_eq_some_iff.mpr hnone)]
  exact ⟨rfl, rfl⟩

/-- What a command may do to the files of a disk. -/
structure ChangesTarget (disk : Disk) (installation : Installation) (markup : Markup)
    (command : Command) (outcome : Outcome) : Prop where
  /-- A command that fails changes no file, unless it breaks off; it has then emptied its file, and
  changes no other. -/
  failed : outcome.status ≠ 0 → disk.KeepsFiles outcome.disk ∨
    ∃ path content, BreaksOff disk installation command path content ∧
      disk.Leaves outcome.disk path content
  /-- A command that breaks off fails. -/
  broken : ∀ path content, BreaksOff disk installation command path content →
    outcome.status ≠ 0
  /-- A command that writes no file changes none. -/
  shown : command.target? disk = none → disk.KeepsFiles outcome.disk
  /-- A command that writes a file changes no other. -/
  others : ∀ path, command.target? disk = some path → outcome.status = 0 →
    ∃ content, disk.Leaves outcome.disk path content
  /-- A configuration file is not replaced unless that is asked for. -/
  present : ∀ content, command = .init false → disk.read (localConfig disk) = .ok content →
    disk.KeepsFiles outcome.disk
  /-- Code goes into its file just as it has been made, whatever was there. What is printed
  without a file is the same code, but for the sequences in it that set a style. -/
  code : ∀ a path, command = .transform a → a.output = some path → outcome.status = 0 →
    ∃ location code printed, disk.locate path = .ok location ∧
      outcome.disk.fileAt location = some code.toUtf8 ∧
      disk.KeepsOtherFiles outcome.disk location ∧
      (Command.transform { a with output := none }).execute disk installation markup =
        printed ∧
      printed.status = 0 ∧ printed.out = withoutStyles code ∧ (printed.out = code ↔ ¬ HasStyle code)

lemma changesTarget_execute (disk : Disk) (installation : Installation) (markup : Markup)
    (command : Command) :
    ChangesTarget disk installation markup command
      (command.execute disk installation markup) where
  failed hstatus := by
    cases command with
    | init force =>
        refine (keepsFiles_or_leaves_runInit hstatus).imp_right ?_
        rintro ⟨hcut, hleaves⟩
        exact ⟨_, _, .config force hcut, hleaves⟩
    | transform a =>
        refine (disk_or_breaksOff_transform hstatus).imp_left fun hdisk => ?_
        rw [hdisk]
        exact .refl disk
    -- the other commands have no file to write
    | help | version | css file | options source config =>
        rw [disk_execute_of_target rfl]
        exact .inl (.refl disk)
  broken path content hbreaks := hbreaks.status_ne_zero markup
  shown htarget := by
    rw [disk_execute_of_target htarget]
    exact .refl disk
  others path htarget hstatus := by
    cases command with
    | init force =>
        obtain rfl := Option.some.inj htarget
        exact ⟨_, (leaves_runInit hstatus).2⟩
    | transform a =>
        obtain ⟨code, -, hwrite⟩ := exists_write_of_status htarget hstatus
        exact ⟨_, Disk.leaves_of_write hwrite⟩
    | help | version | css file | options source config =>
        exact absurd htarget (by simp [Command.target?])
  present content hcommand hread := by
    subst hcommand
    rw [Command.execute, runInit_of_has (Disk.has_of_read hread)]
    exact .refl disk
  code a path hcommand houtput hstatus := by
    subst hcommand
    obtain ⟨code, hcode, hwrite⟩ := exists_write_of_status houtput hstatus
    obtain ⟨location, hlocation, -, hcontent, hothers⟩ := Disk.exists_fileAt_of_write hwrite
    obtain ⟨hprinted, hout⟩ := execute_transform_of_hotCode markup hcode
    refine ⟨location, code, _, hlocation, hcontent, hothers, rfl, hprinted, hout, ?_⟩
    rw [hout, withoutStyles_eq_self_iff]

/-- The arguments that ask for a file to be made hot into another file, and those that ask for it to
be printed. -/
def writingArguments : List Text := ["transform", "App.js", "-o", "out.js"]

def printingArguments : List Text := ["transform", "App.js"]

/-- A comment in red. -/
def styledLine : Text := "// \x1b[31mred\n"

lemma ofArguments?_writingArguments :
    Invocation.ofArguments? writingArguments = some ⟨false, .transform transformOneFile⟩ := by
  decide +kernel

lemma status_writingArguments :
    (runArguments (oneFile styledLine) {} .plain writingArguments).status = 0 := by
  decide +kernel

/-- A component, a template that prints a surrogate in its place, and a file of the user. -/
def halvedDisk : Disk where
  working := []
  entries :=
    [(["App.js"], .file (Text.toUtf8 "export default App;\n")),
      (["svelte-hmr.toml"], .file (Text.toUtf8 "[transformer]\ntemplate_dir = \"t\"\n")),
      (["t"], .directory),
      (["t", "apply_hmr.js.j2"], .file (Text.toUtf8 "\x7b\x7b \"\\ud800\" \x7d\x7d")),
      (["out.js"], .file (Text.toUtf8 "const a = 1;\n"))]

/-- The run fails, and the file of the user is empty. -/
example :
    (runArguments halvedDisk {} .plain writingArguments).stopped = some .halved ∧
      (runArguments halvedDisk {} .plain writingArguments).disk.fileAt ["out.js"] = some [] := by
  decide +kernel

end HotReload
