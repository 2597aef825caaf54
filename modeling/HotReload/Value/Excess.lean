import HotReload.Value
/-!
Values that are too large to be written or read.

* `Excess` tells what there is too much of: the digits of an integer, or levels of nesting.
* `Value.literalExcess?` tells what keeps a value from being written as a literal,
  `Value.textExcess?` what keeps it from being written as text, and `Value.copyExcess?`
  what keeps it from being copied.
* `Value.stop?` tells what stops a writer that goes through a value only once: of several
  things the one that it comes to first.

A value is handled level by level, and every level takes some steps that stay open until
what is inside is done. There is room for a fixed number of open steps.
-/

namespace HotReload

/-- What there is too much of. -/
inductive Excess where
  /-- An integer has too many digits. -/
  | digits
  /-- Lists or mappings are nested too deep. -/
  | nesting
  deriving DecidableEq, Repr

/-- The words for an excess. -/
def Excess.message : Excess → Text
  | .digits => "too many digits"
  | .nesting => "too many levels"

/-- The most digits of an integer. -/
def mostDigits : Nat := 4300

/-- The least number that has too many digits. -/
@[irreducible]
def digitBound : Nat := Nat.pow 10 mostDigits

/-- The most steps that are open at a time. -/
def mostOpenSteps : Nat := 980

namespace Value

mutual

/-- The steps that are open where a value is nested deepest, when a list takes `forList` of
them and a mapping `forMap`. -/
def openSteps (forList forMap : Nat) : Value → Nat
  | .list items => forList + openStepsItems forList forMap items
  | .tuple items => forList + openStepsItems forList forMap items
  | .map entries => forMap + openStepsEntries forList forMap entries
  | _ => 0

/-- The most steps that any of the items takes. -/
def openStepsItems (forList forMap : Nat) : List Value → Nat
  | [] => 0
  | item :: items =>
      max (item.openSteps forList forMap) (openStepsItems forList forMap items)

/-- The most steps that the value of any entry takes. -/
def openStepsEntries (forList forMap : Nat) : List (Value × Value) → Nat
  | [] => 0
  | (_, value) :: entries =>
      max (value.openSteps forList forMap) (openStepsEntries forList forMap entries)

end

mutual

/-- Whether an integer in a value has too many digits. -/
def hasLongInteger : Value → Bool
  | .int n => digitBound ≤ n.natAbs
  | .list items => hasLongIntegerItems items
  | .tuple items => hasLongIntegerItems items
  | .map entries => hasLongIntegerEntries entries
  | _ => false

/-- Whether an integer in one of the items has too many digits. -/
def hasLongIntegerItems : List Value → Bool
  | [] => false
  | item :: items => item.hasLongInteger || hasLongIntegerItems items

/-- Whether an integer in one of the entries has too many digits. -/
def hasLongIntegerEntries : List (Value × Value) → Bool
  | [] => false
  | (key, value) :: entries =>
      key.hasLongInteger || value.hasLongInteger || hasLongIntegerEntries entries

end

/-- What keeps a value from being written as a literal. Its shape is gone through before
anything is written. -/
def literalExcess? (v : Value) : Option Excess :=
  if mostOpenSteps < v.openSteps 2 3 then some .nesting
  else if v.hasLongInteger then some .digits
  else none

/-- What keeps a value from being copied. -/
def copyExcess? (v : Value) : Option Excess :=
  if mostOpenSteps < v.openSteps 2 2 then some .nesting else none

end Value

/-! ### Writing at once -/

/-- What stops a writer that goes through a value only once. -/
inductive WriteStop where
  | excess (excess : Excess)
  /-- A value for which there is no form. -/
  | noForm
  deriving DecidableEq, Repr

namespace Value

mutual

/-- What stops a writer that comes to this value with room for so many levels; `hasForm` tells
the values that it has a form for. -/
def stop? (hasForm : Value → Bool) (room : Nat) : Value → Option WriteStop
  | .list items =>
      if room = 0 then some (.excess .nesting) else stopItems? hasForm (room - 1) items
  | .tuple items =>
      if room = 0 then some (.excess .nesting) else stopItems? hasForm (room - 1) items
  | .map entries =>
      if room = 0 then some (.excess .nesting) else stopEntries? hasForm (room - 1) entries
  | .int n => if digitBound ≤ n.natAbs then some (.excess .digits) else none
  | v => if hasForm v then none else some .noForm

/-- What stops it first among items. -/
def stopItems? (hasForm : Value → Bool) (room : Nat) : List Value → Option WriteStop
  | [] => none
  | item :: items =>
      match item.stop? hasForm room with
      | some stop => some stop
      | none => stopItems? hasForm room items

/-- What stops it first among the values of entries. -/
def stopEntries? (hasForm : Value → Bool) (room : Nat) :
    List (Value × Value) → Option WriteStop
  | [] => none
  | (_, value) :: entries =>
      match value.stop? hasForm room with
      | some stop => some stop
      | none => stopEntries? hasForm room entries

end

/-- What keeps a value from being written as text, in which every value has a form. -/
def textExcess? (v : Value) : Option Excess :=
  match v.stop? (fun _ => true) mostOpenSteps with
  | some (.excess e) => some e
  | _ => none

end Value

end HotReload
