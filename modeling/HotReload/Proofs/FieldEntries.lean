import HotReload.Proofs.Merging
import HotReload.Proofs.Tables
/-!
The fields of options, each under one of its names, and entries under other names behind them.

If no other key is a name of a field:

* `HotOptions.filter_isName_fieldEntries_append`: under the names of a field stands one entry.
* `HotOptions.filter_isOtherKey_fieldEntries_append`: the other entries stand under the other keys.
* `HotOptions.pairwise_fieldEntries_append`: no two keys are equal.
-/

namespace HotReload

namespace HotOptions

/-- The fields, each under one of its names. -/
def fieldEntries (options : HotOptions) (name : Field → Text) : Mapping :=
  Field.all.map fun f => (.str (name f), options.get f)

lemma isName_snakeName (f : Field) : f.isName (.str f.snakeName) = true := by
  simp [Field.isName]

lemma isName_camelName (f : Field) : f.isName (.str f.camelName) = true := by
  simp [Field.isName]

variable {options : HotOptions} {name : Field → Text} {f : Field}

section

variable (hname : ∀ f : Field, f.isName (.str (name f)) = true)

include hname

lemma isName_iff_eq {g : Field} : f.isName (.str (name g)) = true ↔ g = f := by
  constructor
  · exact fun h => Field.eq_of_isName (hname g) h
  · rintro rfl
    exact hname g

lemma isOtherKey_fieldName (f : Field) : isOtherKey (.str (name f)) = false := by
  rw [Bool.eq_false_iff]
  intro hother
  exact absurd (hname f) (by simp [isName_of_isOtherKey hother f])

/-- Under the names of a field stands its own entry. -/
lemma filter_isName_fieldEntries_append {entries : Mapping}
    (hothers : ∀ e ∈ entries, isOtherKey e.1 = true) :
    (options.fieldEntries name ++ entries).filter (fun e => f.isName e.1) =
      [(.str (name f), options.get f)] := by
  have hself : Field.all.filter (fun g => decide (g = f)) = [f] := by
    cases f <;> decide
  have hnames : (fun g : Field => f.isName (.str (name g))) = fun g => decide (g = f) := by
    funext g
    rw [Bool.eq_iff_iff, isName_iff_eq hname, decide_eq_true_iff]
  have hnone : entries.filter (fun e => f.isName e.1) = [] := by
    refine List.filter_eq_nil_iff.mpr fun e he => ?_
    rw [isName_of_isOtherKey (hothers e he) f]
    exact Bool.false_ne_true
  rw [List.filter_append, hnone, List.append_nil, fieldEntries, List.filter_map]
  simp only [Function.comp_def, hnames, hself, List.map_cons, List.map_nil]

/-- The other entries are those that name no field. -/
lemma filter_isOtherKey_fieldEntries_append {entries : Mapping}
    (hothers : ∀ e ∈ entries, isOtherKey e.1 = true) :
    (options.fieldEntries name ++ entries).filter (fun e => isOtherKey e.1) = entries := by
  have hfields : (options.fieldEntries name).filter (fun e => isOtherKey e.1) = [] := by
    refine List.filter_eq_nil_iff.mpr (List.forall_mem_map.mpr fun f _ => ?_)
    rw [isOtherKey_fieldName hname f]
    exact Bool.false_ne_true
  rw [List.filter_append, hfields, List.nil_append, List.filter_eq_self.mpr hothers]

/-- The names of the fields differ, and other keys differ from them. -/
lemma pairwise_fieldEntries_append {entries : Mapping}
    (hothers : ∀ e ∈ entries, isOtherKey e.1 = true)
    (hpairs : entries.Pairwise fun e f => f.1.same e.1 = false) :
    (options.fieldEntries name ++ entries).Pairwise fun e f => f.1.same e.1 = false := by
  refine List.pairwise_append.mpr ⟨List.pairwise_map.mpr ?_, hpairs, ?_⟩
  · have hnodup : Field.all.Nodup := by decide
    refine hnodup.imp fun {f g} hne => ?_
    rw [Bool.eq_false_iff]
    intro hsame
    have hequal : name g = name f := (Value.str.inj (same_str_iff.mp hsame)).symm
    refine hne ((isName_iff_eq hname).mp ?_)
    rw [← hequal]
    exact hname g
  · refine List.forall_mem_map.mpr fun f _ e he => ?_
    rw [Bool.eq_false_iff]
    intro hsame
    have hother := hothers e he
    rw [same_str_right_iff.mp hsame, isOtherKey_fieldName hname f] at hother
    exact Bool.false_ne_true hother

end

end HotOptions

end HotReload
