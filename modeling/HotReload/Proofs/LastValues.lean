import HotReload.Proofs.Entries
/-!
Entries that are written in turn under an equality of keys that need not be reflexive.

* `lastValuesBy`: every key once, where it first stands and in the form that it has there, with
  the value that it last has. A key that does not equal itself is no duplicate.
* `putAllBy_eq_lastValuesBy`: that is what writing in turn gives, if the equality is symmetric and
  transitive (`IsKeyEquality`).
-/

namespace HotReload

variable {κ : Type} {α : Type} {same : κ → κ → Bool} {P : κ → Prop}

/-- The value that the key of an entry last has. An entry whose key equals none has its own. -/
def lastValueBy (same : κ → κ → Bool) (entries : List (κ × α)) (e : κ × α) : α :=
  (getBy? same e.1 entries.reverse).getD e.2

/-- Every key once, where it first stands, with the value that it last has. -/
def lastValuesBy (same : κ → κ → Bool) (entries : List (κ × α)) : List (κ × α) :=
  (entries.eraseDupsBy fun e f => same e.1 f.1).map fun e => (e.1, lastValueBy same entries e)

/-- The equality is symmetric and transitive on the keys with the property. -/
structure IsKeyEquality (same : κ → κ → Bool) (P : κ → Prop) : Prop where
  symm : ∀ {a b}, P a → P b → same a b = true → same b a = true
  trans : ∀ {a b c}, P a → P b → P c → same a b = true → same b c = true → same a c = true

lemma IsKeyEquality.comm (h : IsKeyEquality same P) {a b : κ} (ha : P a) (hb : P b) :
    same a b = same b a :=
  Bool.eq_iff_iff.mpr ⟨h.symm ha hb, h.symm hb ha⟩

/-! ### The first of equal keys -/

lemma eraseDupsBy_append_singleton (r : α → α → Bool) (xs : List α) (x : α) :
    (xs ++ [x]).eraseDupsBy r =
      if (xs.eraseDupsBy r).any (r x) then xs.eraseDupsBy r else xs.eraseDupsBy r ++ [x] := by
  have hloop (seen : List α) : List.eraseDupsBy.loop r (xs ++ [x]) seen =
      if (List.eraseDupsBy.loop r xs seen).any (r x) then List.eraseDupsBy.loop r xs seen
      else List.eraseDupsBy.loop r xs seen ++ [x] := by
    induction xs generalizing seen with
    | nil =>
        rw [List.nil_append, List.eraseDupsBy.loop, List.eraseDupsBy.loop, List.any_reverse]
        cases seen.any (r x) <;> simp [List.eraseDupsBy.loop]
    | cons y xs ih =>
        rw [List.cons_append, List.eraseDupsBy.loop, List.eraseDupsBy.loop]
        cases seen.any (r y)
        · exact ih (y :: seen)
        · exact ih seen
  exact hloop []

lemma mem_of_mem_eraseDupsBy {r : α → α → Bool} {xs : List α} {x : α}
    (h : x ∈ xs.eraseDupsBy r) : x ∈ xs := by
  induction xs using List.reverseRecOn with
  | nil => exact h
  | append_singleton xs y ih =>
      rw [eraseDupsBy_append_singleton] at h
      split at h
      · exact List.mem_append_left _ (ih h)
      · rcases List.mem_append.mp h with hmem | hmem
        · exact List.mem_append_left _ (ih hmem)
        · exact List.mem_append_right _ hmem

lemma pairwise_eraseDupsBy (r : α → α → Bool) (xs : List α) :
    (xs.eraseDupsBy r).Pairwise fun x y => r y x = false := by
  induction xs using List.reverseRecOn with
  | nil => exact List.Pairwise.nil
  | append_singleton xs y ih =>
      rw [eraseDupsBy_append_singleton]
      split
      · exact ih
      · next hnew =>
          refine List.pairwise_append.mpr ⟨ih, List.pairwise_singleton _ _, fun x hx z hz => ?_⟩
          obtain rfl := List.mem_singleton.mp hz
          rw [List.any_eq_true, not_exists] at hnew
          simpa [hx] using hnew x

/-! ### One entry -/

/-- The value goes to the one key that is equal. -/
lemma putBy_eq_map (hsame : IsKeyEquality same P) {key : κ} {entries : List (κ × α)} (hkey : P key)
    (hentries : ∀ e ∈ entries, P e.1) (hpairs : entries.Pairwise fun e f => same f.1 e.1 = false)
    (hex : ∃ e ∈ entries, same key e.1 = true) (value : α) :
    putBy same key value entries =
      entries.map fun e => (e.1, if same key e.1 then value else e.2) := by
  induction entries with
  | nil => exact absurd hex (by simp)
  | cons e es ih =>
      rw [List.pairwise_cons] at hpairs
      have he := hentries e List.mem_cons_self
      have hes : ∀ f ∈ es, P f.1 := fun f hf => hentries f (List.mem_cons_of_mem e hf)
      rw [putBy, List.map_cons]
      split
      · next hfirst =>
          -- no later key is equal as well: it would be equal to this one
          have hrest : ∀ f ∈ es, (f.1, if same key f.1 then value else f.2) = f := by
            intro f hf
            have hne : ¬ same key f.1 = true := by
              intro hagain
              have hback := hsame.symm hkey (hes f hf) hagain
              have hequal := hsame.trans (hes f hf) hkey he hback hfirst
              exact absurd hequal (by simp [hpairs.1 f hf])
            rw [if_neg hne]
          rw [List.map_congr_left hrest, List.map_id']
      · next hfirst =>
          obtain ⟨f, hf, hequal⟩ := hex
          rcases List.mem_cons.mp hf with rfl | hmem
          · exact absurd hequal hfirst
          · rw [ih hes hpairs.2 ⟨f, hmem, hequal⟩]

/-- A key that equals none goes to the end. -/
lemma putBy_of_forall_ne {key : κ} {entries : List (κ × α)}
    (h : ∀ e ∈ entries, same key e.1 = false) (value : α) :
    putBy same key value entries = entries ++ [(key, value)] := by
  induction entries with
  | nil => rfl
  | cons e es ih =>
      rw [List.forall_mem_cons] at h
      rw [putBy, h.1, ih h.2]
      rfl

lemma getBy?_eq_none {key : κ} {entries : List (κ × α)}
    (h : ∀ e ∈ entries, same key e.1 = false) : getBy? same key entries = none := by
  induction entries with
  | nil => rfl
  | cons e es ih =>
      rw [List.forall_mem_cons] at h
      rw [getBy?, h.1, ih h.2]
      rfl

/-- A key that equals one that is there is not written a second time. -/
lemma keys_putBy (key : κ) (value : α) (entries : List (κ × α)) :
    (putBy same key value entries).map Prod.fst =
      if entries.any (fun e => same key e.1) then entries.map Prod.fst
      else entries.map Prod.fst ++ [key] := by
  induction entries with
  | nil => rfl
  | cons e es ih =>
      rw [putBy, List.any_cons]
      cases hkey : same key e.1 with
      | true => rfl
      | false =>
          rw [if_neg Bool.false_ne_true, List.map_cons, ih, Bool.false_or]
          split <;> rfl

lemma keys_prefix_putBy (key : κ) (value : α) (entries : List (κ × α)) :
    entries.map Prod.fst <+: (putBy same key value entries).map Prod.fst := by
  rw [keys_putBy]
  split
  · exact List.prefix_rfl
  · exact List.prefix_append _ _

/-- The keys stay different when an entry is written. -/
lemma pairwise_putBy {key : κ} {entries : List (κ × α)}
    (h : entries.Pairwise fun e f => same f.1 e.1 = false) (value : α) :
    (putBy same key value entries).Pairwise fun e f => same f.1 e.1 = false := by
  have hkeys : (entries.map Prod.fst).Pairwise fun a b => same b a = false :=
    List.pairwise_map.mpr h
  suffices hput : ((putBy same key value entries).map Prod.fst).Pairwise fun a b =>
      same b a = false from List.pairwise_map.mp hput
  rw [keys_putBy]
  split
  · exact hkeys
  · next hnew =>
      refine List.pairwise_append.mpr ⟨hkeys, List.pairwise_singleton _ _, ?_⟩
      refine List.forall_mem_map.mpr fun e he other hother => ?_
      rw [List.mem_singleton.mp hother]
      rw [Bool.not_eq_true, List.any_eq_false] at hnew
      simpa using hnew e he

/-- A value is found under its key, if the key equals itself and none that stands before it. -/
lemma getBy?_of_mem {e : κ × α} {entries : List (κ × α)}
    (h : entries.Pairwise fun e f => same f.1 e.1 = false) (hmem : e ∈ entries)
    (hself : same e.1 e.1 = true) : getBy? same e.1 entries = some e.2 := by
  induction entries with
  | nil => exact absurd hmem List.not_mem_nil
  | cons first es ih =>
      rw [List.pairwise_cons] at h
      rw [getBy?]
      rcases List.mem_cons.mp hmem with rfl | hmem
      · rw [if_pos hself]
      · rw [h.1 e hmem, if_neg Bool.false_ne_true]
        exact ih h.2 hmem

/-! ### Entries in turn -/

lemma lastValueBy_append_singleton (entries : List (κ × α)) (key : κ) (value : α) (e : κ × α) :
    lastValueBy same (entries ++ [(key, value)]) e =
      if same e.1 key then value else lastValueBy same entries e := by
  rw [lastValueBy, List.reverse_append, List.reverse_singleton, List.singleton_append, getBy?]
  cases same e.1 key <;> rfl

/-- A new key has its own value, even if it does not equal itself. -/
lemma lastValueBy_of_new (hsame : IsKeyEquality same P) {key : κ} {entries : List (κ × α)}
    (hkey : P key) (hentries : ∀ e ∈ entries, P e.1) (value : α)
    (hself : same key key = false) : lastValueBy same entries (key, value) = value := by
  rw [lastValueBy, getBy?_eq_none fun e he => ?_, Option.getD_none]
  rw [List.mem_reverse] at he
  by_contra hequal
  rw [Bool.not_eq_false] at hequal
  have hback := hsame.symm hkey (hentries e he) hequal
  exact absurd (hsame.trans hkey (hentries e he) hkey hequal hback) (by simp [hself])

/-- One more entry is written over the last values. -/
lemma putBy_lastValuesBy (hsame : IsKeyEquality same P) {key : κ} {entries : List (κ × α)}
    (hkey : P key) (hentries : ∀ e ∈ entries, P e.1) (value : α) :
    putBy same key value (lastValuesBy same entries) =
      lastValuesBy same (entries ++ [(key, value)]) := by
  have hfirsts : ∀ e ∈ entries.eraseDupsBy fun e f => same e.1 f.1, P e.1 :=
    fun e he => hentries e (mem_of_mem_eraseDupsBy he)
  have hpairs := pairwise_eraseDupsBy (fun e f : κ × α => same e.1 f.1) entries
  rw [lastValuesBy, lastValuesBy, eraseDupsBy_append_singleton]
  simp only [lastValueBy_append_singleton]
  generalize (entries.eraseDupsBy fun e f => same e.1 f.1) = firsts at hfirsts hpairs ⊢
  generalize hlast : lastValueBy same entries = last
  -- either the key stands somewhere and keeps its place, or it is new and goes to the end
  split
  · next hknown =>
      have hex : ∃ e ∈ firsts.map fun e => (e.1, last e), same key e.1 = true := by
        simpa using hknown
      have hkeys : ∀ e ∈ firsts.map fun e => (e.1, last e), P e.1 :=
        List.forall_mem_map.mpr hfirsts
      rw [putBy_eq_map hsame hkey hkeys (List.pairwise_map.mpr hpairs) hex, List.map_map]
      refine List.map_congr_left fun e he => ?_
      rw [Function.comp, hsame.comm hkey (hfirsts e he)]
  · next hnew =>
      have hne : ∀ e ∈ firsts, same key e.1 = false := by simpa using hnew
      have hkeys : ∀ e ∈ firsts.map fun e => (e.1, last e), same key e.1 = false :=
        List.forall_mem_map.mpr hne
      rw [putBy_of_forall_ne hkeys, List.map_append, List.map_singleton]
      congr 1
      · refine List.map_congr_left fun e he => ?_
        rw [← hsame.comm hkey (hfirsts e he), hne e he]
        rfl
      · cases hself : same key key with
        | true => rfl
        | false =>
            rw [← hlast, lastValueBy_of_new hsame hkey hentries value hself]
            rfl

/-- Entries that are written in turn, to none. -/
lemma putAllBy_nil_eq_lastValuesBy (hsame : IsKeyEquality same P) {entries : List (κ × α)}
    (hentries : ∀ e ∈ entries, P e.1) :
    putAllBy same [] entries = lastValuesBy same entries := by
  induction entries using List.reverseRecOn with
  | nil => rfl
  | append_singleton entries e ih =>
      obtain ⟨key, value⟩ := e
      rw [List.forall_mem_append] at hentries
      rw [putAllBy_append_singleton, ih hentries.1]
      exact putBy_lastValuesBy hsame (hentries.2 _ List.mem_cons_self) hentries.1 value

lemma putAllBy_nil_of_pairwise {entries : List (κ × α)}
    (h : entries.Pairwise fun e f => same f.1 e.1 = false) :
    putAllBy same [] entries = entries := by
  induction entries using List.reverseRecOn with
  | nil => rfl
  | append_singleton entries e ih =>
      obtain ⟨hpairs, -, hlast⟩ := List.pairwise_append.mp h
      rw [putAllBy_append_singleton, ih hpairs]
      exact putBy_of_forall_ne (fun f hf => hlast f hf e List.mem_cons_self) e.2

lemma putAllBy_append (entries more : List (κ × α)) (rest : List (κ × α)) :
    putAllBy same entries (more ++ rest) = putAllBy same (putAllBy same entries more) rest :=
  List.foldl_append

/-- Entries whose keys differ from all others go behind them. -/
lemma putAllBy_of_pairwise {entries more : List (κ × α)}
    (h : (entries ++ more).Pairwise fun e f => same f.1 e.1 = false) :
    putAllBy same entries more = entries ++ more := by
  have hentries := putAllBy_nil_of_pairwise (List.pairwise_append.mp h).1
  have hall := putAllBy_nil_of_pairwise h
  rwa [putAllBy_append, hentries] at hall

/-- **Entries in turn**. Writing entries over others, no two of which have equal keys, gives every
key once, where it first stands, with the value that it last has. -/
theorem putAllBy_eq_lastValuesBy (hsame : IsKeyEquality same P) {entries more : List (κ × α)}
    (hpairs : entries.Pairwise fun e f => same f.1 e.1 = false)
    (hentries : ∀ e ∈ entries, P e.1) (hmore : ∀ e ∈ more, P e.1) :
    putAllBy same entries more = lastValuesBy same (entries ++ more) := by
  have hall : ∀ e ∈ entries ++ more, P e.1 := List.forall_mem_append.mpr ⟨hentries, hmore⟩
  calc putAllBy same entries more
      = putAllBy same (putAllBy same [] entries) more := by rw [putAllBy_nil_of_pairwise hpairs]
    _ = putAllBy same [] (entries ++ more) := (putAllBy_append [] entries more).symm
    _ = lastValuesBy same (entries ++ more) := putAllBy_nil_eq_lastValuesBy hsame hall

/-- The keys that are there keep their places. -/
lemma keys_prefix_putAllBy (entries more : List (κ × α)) :
    entries.map Prod.fst <+: (putAllBy same entries more).map Prod.fst := by
  induction more using List.reverseRecOn with
  | nil => exact List.prefix_rfl
  | append_singleton more e ih =>
      obtain ⟨key, value⟩ := e
      rw [putAllBy_append_singleton]
      exact ih.trans (keys_prefix_putBy key value _)

end HotReload
