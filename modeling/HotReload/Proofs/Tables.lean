import Mathlib.Data.List.Perm.Subperm
import HotReload.Proofs.Entries
import HotReload.Value
/-!
Mappings with texts as keys, and mappings that are equal to them in another order.

* `IsTable`: every key is a text, and none stands twice.
* `IsTable.keys_perm`: a mapping that is equal to a table has the same keys.
* `IsTable.exists_field?`: under every key it has an equal value.
-/

namespace HotReload

/-- The keys are texts, and none stands twice. -/
structure IsTable (entries : Mapping) : Prop where
  texts : ∀ e ∈ entries, ∃ text, e.1 = .str text
  nodup : (entries.map Prod.fst).Nodup

lemma same_str_iff {text : Text} {v : Value} : (Value.str text).same v = true ↔ v = .str text := by
  cases v with
  | str other =>
      rw [Value.str.injEq, eq_comm (a := other)]
      exact beq_iff_eq
  | _ => simp [Value.same, Value.sameScalar]

lemma same_str_right_iff {v : Value} {text : Text} :
    v.same (.str text) = true ↔ v = .str text := by
  cases v with
  | str other =>
      rw [Value.str.injEq]
      exact beq_iff_eq
  | _ => simp [Value.same, Value.sameScalar]

lemma sameEntries_iff {entries more : Mapping} :
    Value.sameEntries entries more = true ↔
      ∀ e ∈ entries, ∃ f ∈ more, e.1.same f.1 = true ∧ e.2.same f.2 = true := by
  induction entries with
  | nil => simp [Value.sameEntries]
  | cons e es ih =>
      rw [Value.sameEntries, Bool.and_eq_true, ih, List.forall_mem_cons, List.any_eq_true]
      simp only [Bool.and_eq_true]

lemma same_map_iff {entries : Mapping} {v : Value} :
    (Value.map entries).same v = true ↔
      ∃ more, v = .map more ∧ entries.length = more.length ∧
        Value.sameEntries entries more = true := by
  cases v <;> simp [Value.same]

variable {table entries : Mapping}

lemma IsTable.of_keys {names : List Text} (hnames : names.Nodup)
    (hkeys : table.map Prod.fst = names.map Value.str) : IsTable table where
  texts := by
    intro e he
    have hkey : e.1 ∈ names.map Value.str := by
      rw [← hkeys]
      exact List.mem_map.mpr ⟨e, he, rfl⟩
    obtain ⟨name, -, hname⟩ := List.mem_map.mp hkey
    exact ⟨name, hname.symm⟩
  nodup := by
    rw [hkeys]
    exact hnames.map fun a b h => Value.str.inj h

/-- An equal mapping has an equal value under each text. -/
lemma IsTable.exists_mem_of_same (h : IsTable table)
    (hsame : Value.sameEntries table entries = true) {e : Value × Value} (he : e ∈ table) :
    ∃ v, (e.1, v) ∈ entries ∧ e.2.same v = true := by
  obtain ⟨f, hf, hkey, hvalue⟩ := sameEntries_iff.mp hsame e he
  obtain ⟨text, htext⟩ := h.texts e he
  rw [htext, same_str_iff] at hkey
  refine ⟨f.2, ?_, hvalue⟩
  rw [htext, ← hkey]
  exact hf

/-- As it is no longer, it has no other keys. -/
lemma IsTable.keys_perm (h : IsTable table) (hlength : table.length = entries.length)
    (hsame : Value.sameEntries table entries = true) :
    (table.map Prod.fst).Perm (entries.map Prod.fst) := by
  have hsubset : table.map Prod.fst ⊆ entries.map Prod.fst := by
    intro key hkey
    obtain ⟨e, he, rfl⟩ := List.mem_map.mp hkey
    obtain ⟨v, hv, -⟩ := h.exists_mem_of_same hsame he
    exact List.mem_map.mpr ⟨(e.1, v), hv, rfl⟩
  -- its keys are among those of the mapping, which has no more
  refine (List.subperm_of_subset h.nodup hsubset).perm_of_length_le (Nat.le_of_eq ?_)
  rw [List.length_map, List.length_map, hlength]

lemma IsTable.of_keys_perm (h : IsTable table)
    (hperm : (table.map Prod.fst).Perm (entries.map Prod.fst)) : IsTable entries where
  texts := by
    intro e he
    obtain ⟨f, hf, hkey⟩ := List.mem_map.mp (hperm.mem_iff.mpr (List.mem_map_of_mem he))
    rw [← hkey]
    exact h.texts f hf
  nodup := hperm.nodup_iff.mp h.nodup

/-- No two keys of a table are equal. -/
lemma IsTable.pairwise (h : IsTable table) :
    table.Pairwise fun e f => f.1.same e.1 = false := by
  refine (List.pairwise_map.mp h.nodup).imp_of_mem fun {e f} he hf hne => ?_
  obtain ⟨text, htext⟩ := h.texts f hf
  rw [Bool.eq_false_iff, htext, Ne, same_str_iff]
  intro hkey
  exact hne (hkey.trans htext.symm)

/-- Texts of which no two are equal are the keys of a table. -/
lemma IsTable.of_pairwise (htexts : ∀ e ∈ table, ∃ text, e.1 = .str text)
    (h : table.Pairwise fun e f => f.1.same e.1 = false) : IsTable table where
  texts := htexts
  nodup := by
    refine List.pairwise_map.mpr (h.imp_of_mem fun {e f} he hf hne hkey => ?_)
    obtain ⟨text, htext⟩ := htexts e he
    rw [← hkey, htext, same_str_iff.mpr rfl] at hne
    exact absurd hne.symm Bool.false_ne_true

lemma IsTable.tail {e : Value × Value} (h : IsTable (e :: table)) : IsTable table where
  texts := fun f hf => h.texts f (List.mem_cons_of_mem e hf)
  nodup := (List.nodup_cons.mp h.nodup).2

/-- The value of an entry is found under its key. -/
lemma IsTable.field?_of_mem (h : IsTable table) {text : Text} {v : Value}
    (hmem : (.str text, v) ∈ table) : Mapping.field? text table = some v := by
  induction table with
  | nil => exact absurd hmem List.not_mem_nil
  | cons e es ih =>
      rw [Mapping.field?, Mapping.get?, getBy?]
      rcases List.mem_cons.mp hmem with rfl | hmem
      · rw [if_pos (same_str_iff.mpr rfl)]
      · have hne : ¬ (Value.str text).same e.1 = true := by
          rw [same_str_iff]
          intro hkey
          refine (List.nodup_cons.mp h.nodup).1 ?_
          rw [hkey]
          exact List.mem_map.mpr ⟨_, hmem, rfl⟩
        rw [if_neg hne]
        exact ih h.tail hmem

/-- A mapping that is equal to a table has an equal value under each of its keys. -/
lemma IsTable.exists_field? (h : IsTable table) (hlength : table.length = entries.length)
    (hsame : Value.sameEntries table entries = true) {text : Text} {v : Value}
    (hmem : (.str text, v) ∈ table) :
    ∃ w, Mapping.field? text entries = some w ∧ v.same w = true := by
  obtain ⟨w, hw, hvalue⟩ := h.exists_mem_of_same hsame hmem
  exact ⟨w, (h.of_keys_perm (h.keys_perm hlength hsame)).field?_of_mem hw, hvalue⟩

end HotReload
