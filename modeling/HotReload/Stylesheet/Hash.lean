import HotReload.Text.Numeral
import HotReload.Text.Units
/-!
The hash of a text: over its UTF-16 code units from the last to the first, in words of
thirty-two bits, written in base thirty-six.

* `hashStep` multiplies the value so far by thirty-one and mixes in a unit.
* `hashUnits` runs over units, `hashText` over the units of a text.
-/

namespace HotReload

/-- The value before the first step. -/
def hashSeed : UInt32 := 5381

/-- Takes in one unit: `(v · 32 - v) xor u`, modulo `2^32`. -/
def hashStep (unit : UInt16) (value : UInt32) : UInt32 :=
  ((value <<< 5) - value) ^^^ unit.toUInt32

/-- The value after all units, the last one taken in first. -/
def hashValue (units : List UInt16) : UInt32 := units.foldr hashStep hashSeed

/-- The hash of a row of units. -/
def hashUnits (units : List UInt16) : Text := numeral 36 (hashValue units).toNat

/-- The hash of a text. -/
def hashText (text : Text) : Text := hashUnits text.units

end HotReload
