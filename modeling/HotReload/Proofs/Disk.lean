import Mathlib.Data.List.Basic
import HotReload.Disk
import HotReload.Proofs.Runs
/-!
A file that has been written is read back.

* `entryAt_put_self`, `entryAt_put_of_ne`: an entry that is put somewhere stands there, and all
  other entries stay.
* `locate_put`: no path leads elsewhere once an entry has been put where no directory was.
* `read_of_write`: the path at which a file was written leads to its content.
* `Stored`: a file cannot be opened, or is cut off, or is whole. `stored_store`: so it is for each
  that is stored.
-/

namespace HotReload.Disk

variable {disk : Disk} {location other : Location} {entry : Entry}

/-- The working directory and those above it are directories. -/
lemma not_prefix_working (h : disk.entryAt location ≠ some .directory) :
    ¬ location <+: disk.working := by
  intro hprefix
  exact h (by rw [entryAt, if_pos (List.isPrefixOf_iff_prefix.mpr hprefix)])

lemma entryAt_put_self (h : ¬ location <+: disk.working) :
    (disk.put location entry).entryAt location = some entry := by
  rw [entryAt, if_neg (by simpa [put] using h)]
  simp [put]

lemma entryAt_put_of_ne (h : other ≠ location) :
    (disk.put location entry).entryAt other = disk.entryAt other := by
  have hfind : ((location, entry) :: disk.entries.filter fun e => e.1 != location).find?
      (fun e => e.1 == other) = disk.entries.find? fun e => e.1 == other := by
    rw [List.find?_cons_of_neg (by simpa using h.symm), List.find?_filter]
    congr 1
    funext e
    by_cases he : e.1 = other
    · simp [he, h]
    · simp [he]
  rw [entryAt, entryAt, put, hfind]

/-- Every place on a way is a directory, and so it is not where a file is put. -/
lemma walk_put {shown : Text} {start target : Location} {parts : List Text}
    (hlocation : disk.entryAt location ≠ some .directory)
    (h : disk.walk shown start parts = .ok target) :
    (disk.put location entry).walk shown start parts = .ok target := by
  induction parts generalizing start with
  | nil => exact h
  | cons part parts ih =>
      rw [walk] at h ⊢
      split at h
      · next hstart =>
          have hne : start ≠ location := by
            rintro rfl
            exact hlocation hstart
          rw [entryAt_put_of_ne hne, hstart]
          dsimp only
          split_ifs at h ⊢ with hup hlong
          · exact ih h
          · exact ih h
      · exact absurd h (by simp)
      · exact absurd h (by simp)

lemma locate_put {path : Path} {target : Location}
    (hlocation : disk.entryAt location ≠ some .directory) (h : disk.locate path = .ok target) :
    (disk.put location entry).locate path = .ok target := by
  rw [locate] at h ⊢
  split_ifs at h ⊢ with hnull hlong
  · exact walk_put hlocation h
  · exact walk_put hlocation h

/-- A file is written where the path leads, and no directory is there. -/
lemma exists_put_of_write {path : Path} {content : List UInt8} {written : Disk}
    (h : disk.write path content = .ok written) :
    ∃ location, disk.locate path = .ok location ∧ disk.entryAt location ≠ some .directory ∧
      written = disk.put location (.file content) := by
  obtain ⟨location, hlocation, h⟩ := bind_eq_ok.mp h
  refine ⟨location, hlocation, ?_⟩
  cases hentry : disk.entryAt location with
  | some entry =>
      rw [hentry] at h
      cases entry with
      | directory => exact absurd h (by simp [throw, throwThe, MonadExceptOf.throw])
      | file old => exact ⟨by simp, (Except.ok.inj h).symm⟩
  | none =>
      rw [hentry] at h
      dsimp only at h
      rw [putBelow] at h
      split at h
      · exact ⟨by simp, (Except.ok.inj h).symm⟩
      · exact absurd h (by simp)
      · exact absurd h (by simp)

lemma lookup_of_write {path : Path} {content : List UInt8} {written : Disk}
    (h : disk.write path content = .ok written) : written.lookup path = .ok (.file content) := by
  obtain ⟨location, hlocation, hentry, rfl⟩ := exists_put_of_write h
  rw [lookup, locate_put hentry hlocation]
  simp only [bind, Except.bind, entryAt_put_self (not_prefix_working hentry), pure, Except.pure]

/-- **Reading back**. The path at which a file has been written leads to what was written,
whatever stood there. -/
theorem read_of_write {path : Path} {content : List UInt8} {written : Disk}
    (h : disk.write path content = .ok written) : written.read path = .ok content := by
  rw [read, lookup_of_write h]
  rfl

/-- Whether a file can be opened does not depend on what is written. -/
lemma write_eq_error {path : Path} {content : List UInt8} {e : OsError}
    (h : disk.write path content = .error e) (other : List UInt8) :
    disk.write path other = .error e := by
  rw [write] at h ⊢
  cases hlocation : disk.locate path with
  | error e => rwa [hlocation] at h
  | ok location =>
      rw [hlocation] at h
      simp only [bind, Except.bind, putBelow] at h ⊢
      split at h
      · exact h
      · exact absurd h (by simp [pure, Except.pure])
      · split at h
        · exact absurd h (by simp)
        · exact h
        · exact h

/-! ### Room -/

/-- Only the end of a content can be missing. -/
lemma fitting_prefix (disk : Disk) (content : List UInt8) :
    disk.fitting content <+: content := by
  rw [fitting]
  split
  · exact List.prefix_refl content
  · exact List.take_prefix ..

lemma fitting_eq_self_iff {content : List UInt8} :
    disk.fitting content = content ↔ ¬ (disk.fitting content).length < content.length := by
  have hprefix := disk.fitting_prefix content
  constructor
  · intro h
    rw [h]
    exact Nat.lt_irrefl _
  · exact fun h => hprefix.eq_of_length_le (Nat.not_lt.mp h)

/-- How storing a content ends: with a file that cannot be opened, with one that is cut off, or with
one that is whole. -/
inductive Stored (disk : Disk) (path : Path) (content : List UInt8) :
    Disk × Option OsError → Prop where
  | unopened {e : OsError} (hopen : ∀ other, disk.write path other = .error e) :
      Stored disk path content (disk, some e)
  | cut {written : Disk} (hwrite : disk.write path (disk.fitting content) = .ok written)
      (hcut : disk.fitting content ≠ content) : Stored disk path content (written, some .full)
  | whole {written : Disk} (hwrite : disk.write path content = .ok written)
      (hfits : disk.fitting content = content) : Stored disk path content (written, none)

lemma stored_store (disk : Disk) (path : Path) (content : List UInt8) :
    Stored disk path content (disk.store path content) := by
  rw [store]
  cases hwrite : disk.write path (disk.fitting content) with
  | error e => exact .unopened (write_eq_error hwrite)
  | ok written =>
      dsimp only
      split
      · next hshort => exact .cut hwrite fun h => fitting_eq_self_iff.mp h hshort
      · next hlong =>
          have hfits := fitting_eq_self_iff.mpr hlong
          exact .whole (hfits ▸ hwrite) hfits

/-- A file that is whole has been written. -/
lemma write_of_store {path : Path} {content : List UInt8} {written : Disk}
    (h : disk.store path content = (written, none)) : disk.write path content = .ok written := by
  cases h ▸ disk.stored_store path content with
  | whole hwrite => exact hwrite

lemma has_of_read {path : Path} {content : List UInt8} (h : disk.read path = .ok content) :
    disk.has path = .ok true := by
  obtain ⟨entry, hentry, -⟩ := bind_eq_ok.mp h
  rw [has, holds, hentry]

end HotReload.Disk
