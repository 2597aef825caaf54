import HotReload.Proofs.Doubles.Equality
import HotReload.Value
/-!
Equality of keys.

* `Value.Scalar` is what an equality of two values that are no containers compares: numbers of all
  kinds by the rational that they stand for, times by their instant, objects by their identity.
* `Value.sameScalar_iff`: such values are equal just if they stand for the same thing.
* `Value.same_symm`, `Value.same_trans`: equality of values that may be keys is symmetric and
  transitive. It is not reflexive, as a number that is none, each time a new object, equals nothing.
-/

namespace HotReload

namespace Value

/-! ### Scalars -/

/-- What a value that is no container is compared by. -/
inductive Scalar where
  | null
  | number (r : ℚ)
  | infinite (x : Double)
  | nan (identity : Nat)
  | text (t : Text)
  | unpaired (t : HalvedText)
  | bytes (row : List UInt8)
  | function (identity : Nat)
  | date (d : Date)
  | time (hasOffset : Bool) (instant : Int)
  | moment (hasOffset : Bool) (instant : Int)

/-- What a double stands for, unless it is no number. -/
def Scalar.ofDouble? (x : Double) : Option Scalar :=
  if x.isFinite then some (.number x.signedValue)
  else if x.isNaN then none else some (.infinite x)

/-- What a value stands for, unless it equals nothing or is a container. -/
def scalar? : Value → Option Scalar
  | .null => some .null
  | .bool b => some (.number (if b then 1 else 0 : Int))
  | .int n => some (.number n)
  | .float x => Scalar.ofDouble? x
  | .nan identity => some (.nan identity)
  | .str text => some (.text text)
  | .unpaired text => some (.unpaired text)
  | .bytes row => some (.bytes row)
  | .function identity => some (.function identity)
  | .date d => some (.date d)
  | .time t => some (.time t.offset.isSome t.instant)
  | .moment m =>
      some (.moment m.time.offset.isSome (m.date.dayNumber * 86400000000 + m.time.instant))
  | .list _ | .tuple _ | .map _ => none

lemma Scalar.ofDouble?_eq_some {x : Double} {s : Scalar} :
    Scalar.ofDouble? x = some s ↔
      match s with
      | .number r => x.isFinite = true ∧ x.signedValue = r
      | .infinite y => x.isFinite = false ∧ x.isNaN = false ∧ x = y
      | _ => False := by
  rw [Scalar.ofDouble?]
  cases x.isFinite <;> cases x.isNaN <;> cases s <;> simp

lemma Scalar.equalsInt_iff {x : Double} {n : Int} :
    x.equalsInt n = true ↔ Scalar.ofDouble? x = some (.number n) := by
  rw [Scalar.ofDouble?_eq_some]
  cases hx : x.isFinite with
  | true => simp [Double.equalsInt_iff hx]
  | false => simp [Double.equalsInt, hx]

lemma Scalar.equals_iff_of_not_finite {x : Double} (hx : x.isFinite = false) (y : Double) :
    x.equals y = true ↔ ∃ s, Scalar.ofDouble? x = some s ∧ Scalar.ofDouble? y = some s := by
  rw [Double.equals_iff_of_not_finite hx]
  constructor
  · rintro ⟨hnan, rfl⟩
    have hs : Scalar.ofDouble? x = some (.infinite x) :=
      Scalar.ofDouble?_eq_some.mpr ⟨hx, hnan, rfl⟩
    exact ⟨_, hs, hs⟩
  · rintro ⟨s, hxs, hys⟩
    rw [Scalar.ofDouble?_eq_some] at hxs hys
    cases s with
    | number r => exact absurd (hx.symm.trans hxs.1) (by simp)
    | infinite z => exact ⟨hxs.2.1, hxs.2.2.trans hys.2.2.symm⟩
    | _ => exact hxs.elim

lemma Scalar.equals_iff {x y : Double} :
    x.equals y = true ↔ ∃ s, Scalar.ofDouble? x = some s ∧ Scalar.ofDouble? y = some s := by
  cases hx : x.isFinite with
  | false => exact Scalar.equals_iff_of_not_finite hx y
  | true =>
      cases hy : y.isFinite with
      | false =>
          rw [Double.equals_comm, Scalar.equals_iff_of_not_finite hy x]
          exact exists_congr fun s => and_comm
      | true => simp [Scalar.ofDouble?, hx, hy, Double.equals_iff hx hy, eq_comm]

/-- Equal values that are no containers are those that stand for the same thing. -/
lemma sameScalar_iff {v w : Value} :
    v.sameScalar w = true ↔ ∃ s, v.scalar? = some s ∧ w.scalar? = some s := by
  cases v <;> cases w <;>
    simp [sameScalar, scalar?, Scalar.equals_iff, Scalar.equalsInt_iff, Scalar.ofDouble?_eq_some,
      Time.equals, Moment.equals]
  case bool.bool a b => cases a <;> cases b <;> simp
  case bool.int a n => cases a <;> simp
  case int.bool n b => cases b <;> simp [eq_comm]
  all_goals simp [eq_comm]

/-! ### Values that may be keys -/

/-- A value that stands for something equals what stands for the same thing. -/
lemma same_iff_of_scalar? {v w : Value} {s : Scalar} (h : v.scalar? = some s) :
    v.same w = true ↔ w.scalar? = some s := by
  have hsame : v.same w = v.sameScalar w := by
    cases v <;> first | rfl | simp [scalar?] at h
  rw [hsame, sameScalar_iff]
  constructor
  · rintro ⟨s', hs', hw⟩
    rw [hw, ← hs', h]
  · exact fun hw => ⟨s, h, hw⟩

/-- A key that equals another value stands for something, or is a tuple. -/
lemma same_cases {v w : Value} (hv : v.isKey = true) (h : v.same w = true) :
    (∃ s, v.scalar? = some s ∧ w.scalar? = some s) ∨
      ∃ xs ys, v = .tuple xs ∧ w = .tuple ys ∧ isKey.isKeyItems xs = true ∧
        sameItems xs ys = true := by
  cases v with
  | list xs => exact absurd hv (by simp [isKey])
  | map es => exact absurd hv (by simp [isKey])
  | tuple xs =>
      cases w with
      | tuple ys => exact .inr ⟨xs, ys, rfl, rfl, hv, h⟩
      | _ => exact absurd h (by simp [same])
  | _ => exact .inl (sameScalar_iff.mp h)

mutual

/-- Equality of keys is symmetric. -/
theorem same_symm {v w : Value} (hv : v.isKey = true) (h : v.same w = true) : w.same v = true := by
  rcases same_cases hv h with ⟨s, hvs, hws⟩ | ⟨xs, ys, rfl, rfl, hxs, hsame⟩
  · exact (same_iff_of_scalar? hws).mpr hvs
  · exact sameItems_symm hxs hsame
termination_by sizeOf v

theorem sameItems_symm {xs ys : List Value} (hxs : isKey.isKeyItems xs = true)
    (h : sameItems xs ys = true) : sameItems ys xs = true := by
  cases xs with
  | nil =>
      cases ys with
      | nil => rfl
      | cons y ys => exact absurd h (by simp [sameItems])
  | cons x xs =>
      cases ys with
      | nil => exact absurd h (by simp [sameItems])
      | cons y ys =>
          rw [isKey.isKeyItems, Bool.and_eq_true] at hxs
          rw [sameItems, Bool.and_eq_true] at h ⊢
          exact ⟨same_symm hxs.1 h.1, sameItems_symm hxs.2 h.2⟩
termination_by sizeOf xs

end

mutual

/-- Equality of keys is transitive. -/
theorem same_trans {u v w : Value} (hu : u.isKey = true) (hv : v.isKey = true)
    (huv : u.same v = true) (hvw : v.same w = true) : u.same w = true := by
  rcases same_cases hu huv with ⟨s, hus, hvs⟩ | ⟨xs, ys, rfl, rfl, hxs, hsame⟩
  · exact (same_iff_of_scalar? hus).mpr ((same_iff_of_scalar? hvs).mp hvw)
  · rcases same_cases hv hvw with ⟨s, hvs, -⟩ | ⟨_, zs, hys, rfl, hkeys, hnext⟩
    -- the value in the middle is a tuple, which stands for nothing by itself
    · exact absurd hvs (by simp [scalar?])
    · obtain rfl := Value.tuple.inj hys
      exact sameItems_trans hxs hkeys hsame hnext
termination_by sizeOf u

theorem sameItems_trans {xs ys zs : List Value} (hxs : isKey.isKeyItems xs = true)
    (hys : isKey.isKeyItems ys = true) (hxy : sameItems xs ys = true)
    (hyz : sameItems ys zs = true) : sameItems xs zs = true := by
  match xs, ys, zs with
  | [], [], zs => exact hyz
  | x :: xs, y :: ys, z :: zs =>
      rw [isKey.isKeyItems, Bool.and_eq_true] at hxs hys
      rw [sameItems, Bool.and_eq_true] at hxy hyz ⊢
      exact ⟨same_trans hxs.1 hys.1 hxy.1 hyz.1, sameItems_trans hxs.2 hys.2 hxy.2 hyz.2⟩
termination_by sizeOf xs

end

end Value

end HotReload
