import Mathlib.Data.List.Induction
import Mathlib.Data.List.Nodup
import HotReload.Entries
/-!
Entries that are written in turn: a key keeps the place where it first stands, and takes the
value that it last has.

* `keys_putAllBy`, `getBy?_putAllBy`: the keys and the values.
* `mergedEntries` says both at once, and `putAllBy_nil_eq_mergedEntries` that writing in turn
  does so.
* `putAllBy_map`: keys may be renamed first or last, if they are kept apart.
-/

namespace HotReload

variable {κ : Type} {α : Type}

lemma putAllBy_append_singleton (same : κ → κ → Bool) (entries more : List (κ × α)) (key : κ)
    (value : α) :
    putAllBy same entries (more ++ [(key, value)]) =
      putBy same key value (putAllBy same entries more) := by
  rw [putAllBy, List.foldl_append]
  rfl

lemma exists_mem_of_mem_putBy {same : κ → κ → Bool} {key : κ} {value : α} {e : κ × α}
    {entries : List (κ × α)} (h : e ∈ putBy same key value entries) :
    e.2 = value ∨ e ∈ entries := by
  induction entries with
  | nil => exact .inl (by rw [List.mem_singleton.mp h])
  | cons first entries ih =>
      rw [putBy] at h
      split at h
      · rcases List.mem_cons.mp h with rfl | hmem
        · exact .inl rfl
        · exact .inr (List.mem_cons_of_mem first hmem)
      · rcases List.mem_cons.mp h with rfl | hmem
        · exact .inr List.mem_cons_self
        · exact (ih hmem).imp_right (List.mem_cons_of_mem first)

/-- A value that is found is that of an entry. -/
lemma exists_mem_of_getBy? {same : κ → κ → Bool} {key : κ} {value : α} {entries : List (κ × α)}
    (h : getBy? same key entries = some value) : ∃ e ∈ entries, e.2 = value := by
  induction entries with
  | nil => exact absurd h (by simp [getBy?])
  | cons first entries ih =>
      rw [getBy?] at h
      split at h
      · exact ⟨first, List.mem_cons_self, Option.some.inj h⟩
      · obtain ⟨e, he, hvalue⟩ := ih h
        exact ⟨e, List.mem_cons_of_mem first he, hvalue⟩

/-- Every value is that of an entry that was written. -/
lemma exists_mem_of_mem_putAllBy {same : κ → κ → Bool} {e : κ × α} {entries : List (κ × α)}
    (h : e ∈ putAllBy same [] entries) : ∃ key, (key, e.2) ∈ entries := by
  induction entries using List.reverseRecOn with
  | nil => exact absurd h List.not_mem_nil
  | append_singleton entries last ih =>
      obtain ⟨key, value⟩ := last
      rw [putAllBy_append_singleton] at h
      rcases exists_mem_of_mem_putBy h with hvalue | hmem
      · exact ⟨key, by simp [hvalue]⟩
      · obtain ⟨other, hother⟩ := ih hmem
        exact ⟨other, List.mem_append_left _ hother⟩

variable [BEq κ] [LawfulBEq κ]

/-! ### One entry -/

/-- A new key goes to the end. -/
lemma putBy_of_notMem {key : κ} {entries : List (κ × α)} (h : key ∉ entries.map Prod.fst)
    (value : α) : putBy (· == ·) key value entries = entries ++ [(key, value)] := by
  induction entries with
  | nil => rfl
  | cons e es ih =>
      rw [List.map_cons, List.mem_cons, not_or] at h
      rw [putBy, if_neg (by simpa using h.1), ih h.2, List.cons_append]

/-- A key that is there keeps its place. -/
lemma keys_putBy_of_mem {key : κ} {entries : List (κ × α)} (h : key ∈ entries.map Prod.fst)
    (value : α) : (putBy (· == ·) key value entries).map Prod.fst = entries.map Prod.fst := by
  induction entries with
  | nil => exact absurd h List.not_mem_nil
  | cons e es ih =>
      rw [putBy]
      split
      · rfl
      · next hne =>
          rw [List.map_cons, List.mem_cons] at h
          have hmem := h.resolve_left (by simpa using hne)
          rw [List.map_cons, List.map_cons, ih hmem]

/-- The key has the value that is written, and any other key the one that it had. -/
lemma getBy?_putBy (key other : κ) (value : α) (entries : List (κ × α)) :
    getBy? (· == ·) other (putBy (· == ·) key value entries) =
      if other == key then some value else getBy? (· == ·) other entries := by
  induction entries with
  | nil => simp [putBy, getBy?]
  | cons e es ih =>
      rw [putBy]
      split
      · next heq =>
          obtain rfl : key = e.1 := by simpa using heq
          by_cases hother : other = e.1 <;> simp [getBy?, hother]
      · next hne =>
          have hkey : key ≠ e.1 := by simpa using hne
          rw [getBy?, getBy?, ih]
          by_cases hother : other = e.1
          · simp [hother, hkey.symm]
          · simp [hother]

/-! ### Entries in turn -/

/-- Each key stands where it stands first. -/
lemma keys_putAllBy (entries : List (κ × α)) :
    (putAllBy (· == ·) [] entries).map Prod.fst = (entries.map Prod.fst).eraseDups := by
  induction entries using List.reverseRecOn with
  | nil => rfl
  | append_singleton entries e ih =>
      obtain ⟨key, value⟩ := e
      have hmem : key ∈ (putAllBy (· == ·) [] entries).map Prod.fst ↔ key ∈ entries.map Prod.fst := by
        rw [ih, List.mem_eraseDups]
      rw [putAllBy_append_singleton, List.map_append, List.eraseDups_append, ← ih]
      by_cases hkey : key ∈ entries.map Prod.fst
      · rw [keys_putBy_of_mem (hmem.mpr hkey)]
        simp [List.removeAll, hkey]
      · rw [putBy_of_notMem (mt hmem.mp hkey)]
        simp [List.removeAll, hkey, List.eraseDups_cons]

/-- Each key has the value that it has last. -/
lemma getBy?_putAllBy (key : κ) (entries : List (κ × α)) :
    getBy? (· == ·) key (putAllBy (· == ·) [] entries) = getBy? (· == ·) key entries.reverse := by
  induction entries using List.reverseRecOn with
  | nil => rfl
  | append_singleton entries e ih =>
      obtain ⟨other, value⟩ := e
      rw [putAllBy_append_singleton, getBy?_putBy, List.reverse_append, ih]
      simp [getBy?]

lemma nodup_keys_putAllBy (entries : List (κ × α)) :
    ((putAllBy (· == ·) [] entries).map Prod.fst).Nodup := by
  induction entries using List.reverseRecOn with
  | nil => exact List.nodup_nil
  | append_singleton entries e ih =>
      obtain ⟨key, value⟩ := e
      rw [putAllBy_append_singleton]
      by_cases hkey : key ∈ (putAllBy (· == ·) [] entries).map Prod.fst
      · rw [keys_putBy_of_mem hkey]
        exact ih
      · rw [putBy_of_notMem hkey, List.map_append]
        exact ih.append (List.nodup_singleton key) (List.disjoint_singleton.mpr hkey)

/-- Entries whose keys differ stay as they are. -/
lemma putAllBy_of_nodup (before entries : List (κ × α))
    (h : ((before ++ entries).map Prod.fst).Nodup) :
    putAllBy (· == ·) before entries = before ++ entries := by
  induction entries using List.reverseRecOn with
  | nil => rw [List.append_nil]; rfl
  | append_singleton entries e ih =>
      obtain ⟨key, value⟩ := e
      rw [← List.append_assoc, List.map_append, List.nodup_append'] at h
      have hkey := List.disjoint_singleton.mp h.2.2
      rw [putAllBy_append_singleton, ih h.1, putBy_of_notMem hkey, List.append_assoc]

/-! ### Both at once -/

/-- Every key once, where it first stands, with the value that it last has. -/
def mergedEntries (entries : List (κ × α)) : List (κ × α) :=
  (entries.map Prod.fst).eraseDups.filterMap fun key =>
    (getBy? (· == ·) key entries.reverse).map (key, ·)

lemma filterMap_getBy?_of_nodup {entries : List (κ × α)} (h : (entries.map Prod.fst).Nodup) :
    ((entries.map Prod.fst).filterMap fun key =>
      (getBy? (· == ·) key entries).map (key, ·)) = entries := by
  induction entries with
  | nil => rfl
  | cons e es ih =>
      rw [List.map_cons, List.nodup_cons] at h
      have hfirst : (getBy? (· == ·) e.1 (e :: es)).map (e.1, ·) = some e := by
        simp [getBy?]
      have hrest : ((es.map Prod.fst).filterMap fun key =>
          (getBy? (· == ·) key (e :: es)).map (key, ·)) = es := by
        conv_rhs => rw [← ih h.2]
        refine List.filterMap_congr fun key hkey => ?_
        have hne : key ≠ e.1 := by
          rintro rfl
          exact h.1 hkey
        simp [getBy?, hne]
      rw [List.map_cons, List.filterMap_cons, hfirst, hrest]

/-- Entries that are written in turn are merged. -/
theorem putAllBy_nil_eq_mergedEntries (entries : List (κ × α)) :
    putAllBy (· == ·) [] entries = mergedEntries entries := by
  calc putAllBy (· == ·) [] entries
      = ((putAllBy (· == ·) [] entries).map Prod.fst).filterMap fun key =>
          (getBy? (· == ·) key (putAllBy (· == ·) [] entries)).map (key, ·) :=
        (filterMap_getBy?_of_nodup (nodup_keys_putAllBy entries)).symm
    _ = mergedEntries entries := by
        simp only [keys_putAllBy, getBy?_putAllBy, mergedEntries]

/-! ### Renaming keys -/

variable {ι : Type} {β : Type} [BEq ι] [LawfulBEq ι]

lemma putBy_map {rename : κ → ι} (hrename : Function.Injective rename) (change : α → β)
    (key : κ) (value : α) (entries : List (κ × α)) :
    putBy (· == ·) (rename key) (change value) (entries.map (Prod.map rename change)) =
      (putBy (· == ·) key value entries).map (Prod.map rename change) := by
  induction entries with
  | nil => rfl
  | cons e es ih =>
      rw [List.map_cons, putBy, putBy, ih]
      by_cases hkey : key = e.1
      · simp [hkey, Prod.map]
      · simp [hkey, hrename.ne hkey]

/-- Keys that are kept apart may be renamed first or last. -/
lemma putAllBy_map {rename : κ → ι} (hrename : Function.Injective rename) (change : α → β)
    (entries : List (κ × α)) :
    putAllBy (· == ·) [] (entries.map (Prod.map rename change)) =
      (putAllBy (· == ·) [] entries).map (Prod.map rename change) := by
  induction entries using List.reverseRecOn with
  | nil => rfl
  | append_singleton entries e ih =>
      rw [List.map_append, List.map_singleton, Prod.map, putAllBy_append_singleton, ih,
        putBy_map hrename, ← putAllBy_append_singleton]

end HotReload
