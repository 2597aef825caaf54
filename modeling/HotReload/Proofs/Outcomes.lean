import HotReload.Command
import HotReload.Proofs.Files
/-!
What a command leaves, from what its run gives.

* `Outcome.ofRun_of_ok`, `Outcome.ofRun_of_error`: a value goes to what comes next, and a failure
  ends the command with the disk as it was.
* `Delivered`: where the delivery of code into a file ends. `delivered_deliver`: every delivery ends
  at one of these places.
* `exists_write_of_status`: a run of `transform` with the status zero has written the code that was
  made hot.
-/

namespace HotReload

variable {disk : Disk} {installation : Installation} {markup : Markup} {a : TransformArguments}
  {path : Path}

/-! ### Runs of any kind -/

section

variable {α : Type} {run : Run α} {next : α → Outcome}

/-- A value goes to what comes next, and only the events of the run are added. -/
lemma Outcome.ofRun_of_ok {value : α} (h : run.result = .ok value) :
    Outcome.ofRun disk run next = { next value with events := run.events } := by
  rw [Outcome.ofRun, h]

/-- A failure ends the command, with the disk as it was. -/
lemma Outcome.ofRun_of_error {failure : Failure} (h : run.result = .error failure) :
    (Outcome.ofRun disk run next).disk = disk ∧ (Outcome.ofRun disk run next).status = 1 := by
  rw [Outcome.ofRun, h]
  cases hreport : failure.report? <;> simp [hreport]

/-- Nothing happens on the disk after a run whose value is only shown. -/
lemma Outcome.disk_ofRun (hnext : ∀ value, (next value).disk = disk) :
    (Outcome.ofRun disk run next).disk = disk := by
  cases hresult : run.result with
  | ok value => rw [Outcome.ofRun_of_ok hresult, hnext]
  | error failure => exact (Outcome.ofRun_of_error hresult).1

end

/-! ### Code -/

lemma result_code?_eq_some_iff {run : Run Text} {code : Text} :
    run.code?.result = .ok (some code) ↔ run.result = .ok code := by
  rw [Run.code?]
  split <;> simp_all

lemma result_code?_eq_none_iff {run : Run Text} :
    run.code?.result = .ok none ↔ run.result = .error .halved := by
  rw [Run.code?]
  split <;> simp_all

/-- Where the delivery of code into a file ends. Code with a surrogate in it is none. -/
inductive Delivered (disk : Disk) (path : Path) (outcome : Outcome) : Option Text → Prop where
  /-- The file cannot be opened. -/
  | unopened {code : Option Text} (hdisk : outcome.disk = disk) (hstatus : outcome.status = 1) :
      Delivered disk path outcome code
  /-- There is no room for the code. -/
  | cut {code : Text} (hwrite : disk.write path (disk.fitting code.toUtf8) = .ok outcome.disk)
      (hcut : disk.fitting code.toUtf8 ≠ code.toUtf8) (hstatus : outcome.status = 1) :
      Delivered disk path outcome (some code)
  /-- The file has been emptied, and nothing can be written into it. -/
  | halved (hwrite : disk.write path [] = .ok outcome.disk) (hstatus : outcome.status = 1) :
      Delivered disk path outcome none
  | whole {code : Text} (hwrite : disk.write path code.toUtf8 = .ok outcome.disk)
      (hfits : disk.fitting code.toUtf8 = code.toUtf8) (hstatus : outcome.status = 0) :
      Delivered disk path outcome (some code)

lemma delivered_deliver (disk : Disk) (path : Path) (code : Option Text) :
    Delivered disk path (deliver disk (some path) code) code := by
  unfold deliver
  cases code with
  | none =>
      have hstored := disk.stored_store path []
      dsimp only [Option.elim_none]
      generalize disk.store path [] = stored at hstored ⊢
      cases hstored with
      | unopened => exact .unopened rfl rfl
      -- there is room for nothing
      | cut hwrite hcut => exact absurd (List.prefix_nil.mp (disk.fitting_prefix [])) hcut
      | whole hwrite => exact .halved hwrite rfl
  | some code =>
      have hstored := disk.stored_store path code.toUtf8
      dsimp only [Option.elim_some]
      generalize disk.store path code.toUtf8 = stored at hstored ⊢
      cases hstored with
      | unopened => exact .unopened rfl rfl
      | cut hwrite hcut => exact .cut hwrite hcut rfl
      | whole hwrite hfits => exact .whole hwrite hfits rfl

/-! ### The file of `transform` -/

/-- A run of `transform` into a file fails before the file is opened, or delivers code. -/
lemma failed_or_delivered (markup : Markup) (houtput : a.output = some path) :
    ((Command.transform a).execute disk installation markup).disk = disk ∧
        ((Command.transform a).execute disk installation markup).status = 1 ∨
      ∃ code, (hotCode disk installation a).code?.result = .ok code ∧
        Delivered disk path ((Command.transform a).execute disk installation markup) code := by
  rw [Command.execute, houtput]
  cases hcode : (hotCode disk installation a).code?.result with
  | error failure => exact .inl (Outcome.ofRun_of_error hcode)
  | ok code =>
      rw [Outcome.ofRun_of_ok hcode]
      refine .inr ⟨code, rfl, ?_⟩
      -- the events of the run are no part of how the delivery ends
      cases delivered_deliver disk path code with
      | unopened hdisk hstatus => exact .unopened hdisk hstatus
      | cut hwrite hcut hstatus => exact .cut hwrite hcut hstatus
      | halved hwrite hstatus => exact .halved hwrite hstatus
      | whole hwrite hfits hstatus => exact .whole hwrite hfits hstatus

/-- A run with the status zero has written the code that was made hot. -/
lemma exists_write_of_status (houtput : a.output = some path)
    (h : ((Command.transform a).execute disk installation markup).status = 0) :
    ∃ out, (hotCode disk installation a).result = .ok out ∧
      disk.write path out.toUtf8 =
        .ok ((Command.transform a).execute disk installation markup).disk := by
  obtain ⟨-, hstatus⟩ | ⟨code, hcode, hend⟩ := failed_or_delivered markup houtput
  · exact absurd (h.symm.trans hstatus) Nat.zero_ne_one
  · cases hend with
    | unopened _ hstatus | cut _ _ hstatus | halved _ hstatus =>
        exact absurd (h.symm.trans hstatus) Nat.zero_ne_one
    | whole hwrite => exact ⟨_, result_code?_eq_some_iff.mp hcode, hwrite⟩

end HotReload
