import HotReload.Config
import HotReload.Proofs.Files
/-!
What a save leaves, whether or not it succeeds.

* `Config.SaveEnd`: a save ends where directories are made, where the file is opened, where the disk
  is full, where its text breaks off, or at the end of the text.
* `Config.saveEnd_save`: every save ends at one of these places.
* `Config.files_of_save_error`: in the first two cases no file is touched. In the next two the old
  content is gone, and as much of the text as could be written is in its place.
* `Config.not_save_error_keeps_file`: so a failed save does not keep the file.
-/

namespace HotReload.Config

variable {c : Config} {disk after : Disk} {path : Path} {failure : Failure}

/-- The failure that a fault of the text becomes: one that tells of the configuration, unless it
is a time of day or a text that has no form in the file, or there is too much of something. -/
def formFailure (path : Path) : TomlFault → Failure
  | .zonedTime => .badValue
  | .excess e => .excess e
  | .halved => .halved
  | fault => .config (.saveFailed path.text (.form fault))

/-- The failure that becomes of a file that cannot be opened or written. -/
def osFailure (path : Path) : OsError → Failure
  | .embeddedNull => .os .embeddedNull
  | e => .config (.saveFailed path.text (.os e))

lemma result_saveFailure_form (path : Path) (fault : TomlFault) :
    (saveFailure path (.form fault)).result = .error (formFailure path fault) := by
  cases fault <;> rfl

lemma result_saveFailure_os (path : Path) (e : OsError) :
    (saveFailure path (.os e)).result = .error (osFailure path e) := by
  cases e <;> rfl

/-- The disk on which the directories above a path have been made, as far as they can be, and the
failure if they cannot all be. -/
def madeAbove (disk : Disk) (path : Path) : Disk × Option OsError :=
  disk.makeDirectories path.parent (path.parts.length + 1)

/-- The bytes of the text of a configuration, up to a fault if there is one. -/
def bytes (c : Config) : List UInt8 := (tomlDocument c.toMapping).text.toUtf8

/-- Where a save ends, and what it leaves. -/
inductive SaveEnd (c : Config) (disk : Disk) (path : Path) (after : Disk) :
    Except Failure Unit → Prop where
  /-- A directory cannot be made. -/
  | directories {e : OsError} (hmade : (madeAbove disk path).2 = some e)
      (hfiles : disk.KeepsFiles after) : SaveEnd c disk path after (.error (.os e))
  /-- The file cannot be opened, whatever would be written. -/
  | opening {e : OsError} (hmade : (madeAbove disk path).2 = none)
      (hopen : ∀ content, (madeAbove disk path).1.write path content = .error e)
      (hfiles : disk.KeepsFiles after) : SaveEnd c disk path after (.error (osFailure path e))
  /-- The file has been emptied, and there is no room for its text. -/
  | full (hcut : disk.fitting c.bytes ≠ c.bytes)
      (hfiles : disk.Leaves after path (disk.fitting c.bytes)) :
      SaveEnd c disk path after (.error (osFailure path .full))
  /-- The file has been emptied, and its text breaks off. -/
  | writing {fault : TomlFault} (hfault : (tomlDocument c.toMapping).fault = some fault)
      (hfits : disk.fitting c.bytes = c.bytes) (hfiles : disk.Leaves after path c.bytes) :
      SaveEnd c disk path after (.error (formFailure path fault))
  /-- All of the text is in the file. -/
  | complete (hfault : (tomlDocument c.toMapping).fault = none)
      (hfits : disk.fitting c.bytes = c.bytes) (hfiles : disk.Leaves after path c.bytes) :
      SaveEnd c disk path after (.ok ())

/-- Every save ends at one of the places. -/
lemma saveEnd_save (c : Config) (disk : Disk) (path : Path) :
    SaveEnd c disk path (c.save disk path).1 (c.save disk path).2.result := by
  have hkept : disk.KeepsFiles (madeAbove disk path).1 := Disk.keepsFiles_makeDirectories _ _ _
  have hroom : (madeAbove disk path).1.fitting = disk.fitting :=
    Disk.fitting_makeDirectories _ _ _
  rw [save]
  split
  · next made e hmake =>
      have hmade : madeAbove disk path = (made, some e) := hmake
      rw [hmade] at hkept
      exact .directories (congrArg Prod.snd hmade) hkept
  · next made hmake =>
      have hmade : madeAbove disk path = (made, none) := hmake
      rw [hmade] at hkept hroom
      -- from here on the disk is the one with the directories, which has the same files and room
      have hstored : Disk.Stored made path c.bytes (made.store path c.bytes) :=
        made.stored_store path c.bytes
      dsimp only
      rw [← bytes]
      generalize made.store path c.bytes = stored at hstored ⊢
      cases hstored with
      | unopened hopen =>
          dsimp only
          rw [result_saveFailure_os]
          exact .opening (congrArg Prod.snd hmade) (by rwa [hmade]) hkept
      | cut hwrite hcut =>
          dsimp only
          rw [result_saveFailure_os]
          rw [hroom] at hwrite hcut
          exact .full hcut (hkept.trans_leaves (Disk.leaves_of_write hwrite))
      | whole hwrite hfits =>
          rw [hroom] at hfits
          have hfiles := hkept.trans_leaves (Disk.leaves_of_write hwrite)
          cases hfault : (tomlDocument c.toMapping).fault with
          | none => exact .complete hfault hfits hfiles
          | some fault =>
              dsimp only
              rw [result_saveFailure_form]
              exact .writing hfault hfits hfiles

/-- No file is opened that cannot then be written, if the configuration has a form and there is
room for it. -/
lemma SaveEnd.keepsFiles (h : SaveEnd c disk path after (.error failure))
    (hform : (tomlDocument c.toMapping).fault = none)
    (hfits : disk.fitting c.bytes = c.bytes) : disk.KeepsFiles after := by
  cases h with
  | directories _ hfiles => exact hfiles
  | opening _ _ hfiles => exact hfiles
  | full hcut => exact absurd hfits hcut
  | writing hfault => exact absurd (hform.symm.trans hfault) (by simp)

/-- **A failed save**. A save that fails has touched no file if a directory could not be made or
the file could not be opened, which is so whenever the configuration can be written and there is
room for it. Otherwise the file holds what could be written of the text before the fault, whatever
it held. -/
theorem files_of_save_error (h : (c.save disk path).2.result = .error failure) :
    SaveEnd c disk path (c.save disk path).1 (.error failure) ∧
      ((tomlDocument c.toMapping).fault = none → disk.fitting c.bytes = c.bytes →
        disk.KeepsFiles (c.save disk path).1) := by
  have hend : SaveEnd c disk path (c.save disk path).1 (.error failure) :=
    h ▸ saveEnd_save c disk path
  exact ⟨hend, hend.keepsFiles⟩

/-- A configuration with an entry that has a form, but none in UTF-8. -/
example :
    (save { hot := { HotOptions.default with
        extra := [(.str "z", .unpaired ⟨[.half ⟨0xD800, rfl⟩], rfl⟩)] } } (.empty [])
      ⟨[], ["svelte-hmr.toml"]⟩).2.result = .error .halved := by
  decide +kernel

/-- A configuration with an entry that has no form. -/
def unwritableConfig : Config where
  hot := { HotOptions.default with extra := [(.str "z", .null)] }

/-- A configuration file of the user in the working directory, and its path. -/
def userFile : Disk :=
  { working := []
    entries := [(["svelte-hmr.toml"], .file (Text.toUtf8 "[hot]\nnative = true\n"))] }

def userPath : Path := ⟨[], ["svelte-hmr.toml"]⟩

/-- The failure that tells of the entry. -/
def unwritableFailure : Failure :=
  .config (.saveFailed "svelte-hmr.toml" (.form (.noForm "NoneType")))

lemma result_save_unwritableConfig :
    (unwritableConfig.save userFile userPath).2.result = .error unwritableFailure := by
  decide +kernel

theorem files_of_save_error_unwritableConfig :
    (unwritableConfig.save userFile userPath).2.result = .error unwritableFailure ∧
      SaveEnd unwritableConfig userFile userPath (unwritableConfig.save userFile userPath).1
        (.error unwritableFailure) ∧
      ((tomlDocument unwritableConfig.toMapping).fault = none →
        userFile.fitting unwritableConfig.bytes = unwritableConfig.bytes →
        userFile.KeepsFiles (unwritableConfig.save userFile userPath).1) :=
  ⟨result_save_unwritableConfig, files_of_save_error result_save_unwritableConfig⟩

/-- The file of the user is not kept where a value has no form. -/
theorem not_save_error_keeps_file :
    ¬ ∀ (c : Config) (disk : Disk) (path : Path) (failure : Failure),
      (c.save disk path).2.result = .error failure →
      (∃ e, failure = .config e) ∧ (c.save disk path).1.read path = disk.read path := by
  intro h
  have hkept := (h _ _ _ _ result_save_unwritableConfig).2
  have hlost : (unwritableConfig.save userFile userPath).1.read userPath ≠
      userFile.read userPath := by
    decide +kernel
  exact hlost hkept

end HotReload.Config
