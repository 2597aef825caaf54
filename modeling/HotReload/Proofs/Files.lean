import HotReload.Proofs.Disk
/-!
The files of a disk, whatever directories there are.

* `Disk.KeepsFiles`: the same files stand at the same locations with the same contents.
* `Disk.KeepsOtherFiles`: so they do but for one location.
* `makeDirectories_induction`: making directories changes no more than putting one does, whether or
  not it comes to an end. `keepsFiles_makeDirectories`: so no file is touched.
* `Disk.Leaves`: a file has some content, and no other file is touched. `leaves_of_write`: so it is
  after a file has been written.
-/

namespace HotReload.Disk

/-- The content of the file at a location. -/
def fileAt (disk : Disk) (location : Location) : Option (List UInt8) :=
  match disk.entryAt location with
  | some (.file content) => some content
  | _ => none

/-- No file is changed, none is new, and none is gone. -/
def KeepsFiles (disk after : Disk) : Prop :=
  ∀ location, after.fileAt location = disk.fileAt location

/-- No file but the one at a location is changed, new, or gone. -/
def KeepsOtherFiles (disk after : Disk) (location : Location) : Prop :=
  ∀ other, other ≠ location → after.fileAt other = disk.fileAt other

variable {disk made after : Disk} {location : Location} {path : Path}

lemma KeepsFiles.refl (disk : Disk) : disk.KeepsFiles disk := fun _ => rfl

lemma KeepsFiles.trans (h : disk.KeepsFiles made) (h' : made.KeepsFiles after) :
    disk.KeepsFiles after :=
  fun location => (h' location).trans (h location)

lemma KeepsFiles.trans_other (h : disk.KeepsFiles made) (h' : made.KeepsOtherFiles after location) :
    disk.KeepsOtherFiles after location :=
  fun other hother => (h' other hother).trans (h other)

lemma fileAt_put_of_ne {entry : Entry} {other : Location} (h : other ≠ location) :
    (disk.put location entry).fileAt other = disk.fileAt other := by
  rw [fileAt, fileAt, entryAt_put_of_ne h]

/-! ### Directories -/

/-- A directory that is put where nothing stands is no file. -/
lemma keepsFiles_put_directory (h : disk.entryAt location = none) :
    disk.KeepsFiles (disk.put location .directory) := by
  intro other
  by_cases hother : other = location
  · subst hother
    rw [fileAt, fileAt, entryAt_put_self (not_prefix_working (by simp [h])), h]
  · exact fileAt_put_of_ne hother

lemma eq_put_of_putBelow {entry : Entry} (h : disk.putBelow path location entry = .ok made) :
    made = disk.put location entry := by
  rw [putBelow] at h
  split at h
  · exact (Except.ok.inj h).symm
  · exact absurd h (by simp)
  · exact absurd h (by simp)

section

-- what putting one directory where nothing stands cannot break, making several cannot
variable {R : Disk → Disk → Prop} (hrefl : ∀ disk, R disk disk)
  (htrans : ∀ {disk made after}, R disk made → R made after → R disk after)
  (hput : ∀ {disk : Disk} {location}, disk.entryAt location = none →
    R disk (disk.put location .directory))

include hput

lemma makeDirectory_induction (h : disk.makeDirectory path = .ok made) : R disk made := by
  obtain ⟨location, -, h⟩ := bind_eq_ok.mp h
  cases hentry : disk.entryAt location with
  | some entry =>
      rw [hentry] at h
      exact absurd h (by simp [throw, throwThe, MonadExceptOf.throw])
  | none =>
      rw [hentry] at h
      rw [eq_put_of_putBelow h]
      exact hput hentry

include hrefl

lemma orPresent_makeDirectory_induction (disk : Disk) (path : Path) :
    R disk (disk.orPresent path (disk.makeDirectory path)).1 := by
  cases hmake : disk.makeDirectory path with
  | ok made => exact makeDirectory_induction hput hmake
  | error e =>
      rw [orPresent]
      split <;> exact hrefl disk

include htrans

/-- Directories are put one after the other, even if some cannot be. -/
lemma makeDirectories_induction (disk : Disk) (path : Path) (fuel : ℕ) :
    R disk (disk.makeDirectories path fuel).1 := by
  induction fuel generalizing disk path with
  | zero => exact orPresent_makeDirectory_induction hrefl hput disk path
  | succ fuel ih =>
      rw [makeDirectories]
      split
      · split
        · exact hrefl disk
        · have habove := ih disk path.parent
          -- the directories above are made first, and those that were made stay
          split
          · next made _ hmade => rwa [hmade] at habove
          · next made hmade =>
              rw [hmade] at habove
              exact htrans habove (orPresent_makeDirectory_induction hrefl hput made path)
      · exact orPresent_makeDirectory_induction hrefl hput disk path

end

/-- No file is touched when directories are made. -/
lemma keepsFiles_makeDirectories (disk : Disk) (path : Path) (fuel : ℕ) :
    disk.KeepsFiles (disk.makeDirectories path fuel).1 :=
  makeDirectories_induction .refl .trans keepsFiles_put_directory disk path fuel

/-- No room is taken when directories are made. -/
lemma fitting_makeDirectories (disk : Disk) (path : Path) (fuel : ℕ) :
    (disk.makeDirectories path fuel).1.fitting = disk.fitting :=
  makeDirectories_induction (R := fun disk made => made.fitting = disk.fitting)
    (fun _ => rfl) (fun h h' => h'.trans h) (fun _ => rfl) disk path fuel

/-! ### Files -/

/-- The path leads to a file with this content, and no other file is changed, new, or gone. -/
def Leaves (disk after : Disk) (path : Path) (content : List UInt8) : Prop :=
  ∃ location, after.locate path = .ok location ∧ after.fileAt location = some content ∧
    disk.KeepsOtherFiles after location

lemma KeepsFiles.trans_leaves {content : List UInt8} (h : disk.KeepsFiles made)
    (h' : made.Leaves after path content) : disk.Leaves after path content := by
  obtain ⟨location, hlocation, hcontent, hothers⟩ := h'
  exact ⟨location, hlocation, hcontent, h.trans_other hothers⟩

/-- The file that is written stands where the path leads, and all others are kept. -/
lemma exists_fileAt_of_write {content : List UInt8} (h : disk.write path content = .ok after) :
    ∃ location, disk.locate path = .ok location ∧ after.locate path = .ok location ∧
      after.fileAt location = some content ∧ disk.KeepsOtherFiles after location := by
  obtain ⟨location, hlocation, hentry, rfl⟩ := exists_put_of_write h
  refine ⟨location, hlocation, locate_put hentry hlocation, ?_, fun other => fileAt_put_of_ne⟩
  rw [fileAt, entryAt_put_self (not_prefix_working hentry)]

lemma leaves_of_write {content : List UInt8} (h : disk.write path content = .ok after) :
    disk.Leaves after path content := by
  obtain ⟨location, -, hlocation, hcontent, hothers⟩ := exists_fileAt_of_write h
  exact ⟨location, hlocation, hcontent, hothers⟩

end HotReload.Disk
