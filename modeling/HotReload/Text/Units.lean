import HotReload.Text
/-!
UTF-16 code units, and texts with surrogates that have no partner.

* `Text.units` gives the units of a text.
* `CodePoint` is a character or a surrogate on its own, and `RawText` a row of them. Two
  surrogates that stand side by side in it are no character.
* `RawText.text?` is the text, if there is no surrogate in the row. Only then has it a form in
  UTF-8.
* `rawOfUnits` reads units, two at a time where they are a pair.
-/

namespace HotReload

/-- The UTF-16 code units of a character: one, or a high and a low surrogate. -/
def charUnits (c : Char) : List UInt16 :=
  let n := c.toNat
  if n < 0x10000 then [n.toUInt16]
  else [(0xD800 + (n - 0x10000) / 0x400).toUInt16, (0xDC00 + (n - 0x10000) % 0x400).toUInt16]

/-- The UTF-16 code units of a text. -/
def Text.units (text : Text) : List UInt16 := text.flatMap charUnits

/-- A unit that opens a pair. -/
def isHighSurrogate (u : UInt16) : Bool := 0xD800 ≤ u && u < 0xDC00

/-- A unit that closes a pair. -/
def isLowSurrogate (u : UInt16) : Bool := 0xDC00 ≤ u && u < 0xE000

/-- A unit that is half of a pair. -/
def isSurrogate (u : UInt16) : Bool := isHighSurrogate u || isLowSurrogate u

/-! ### Rows of code points -/

/-- A unit that stands for no character by itself. -/
structure Surrogate where
  unit : UInt16
  isHalf : isSurrogate unit = true
  deriving DecidableEq, Repr

/-- A character, or a surrogate on its own. -/
inductive CodePoint where
  | char (c : Char)
  | half (surrogate : Surrogate)
  deriving DecidableEq, Repr

/-- A row of characters and surrogates. -/
abbrev RawText := List CodePoint

/-- A text as a row of code points. -/
def Text.raw (text : Text) : RawText := text.map .char

/-- A text stands for its code points. -/
instance rawOfText : Coe Text RawText := ⟨Text.raw⟩

/-- The character of a code point. -/
def CodePoint.char? : CodePoint → Option Char
  | .char c => some c
  | .half _ => none

/-- The units of a code point. -/
def CodePoint.units : CodePoint → List UInt16
  | .char c => charUnits c
  | .half surrogate => [surrogate.unit]

/-- The text, if every code point is a character. -/
def RawText.text? : RawText → Option Text
  | [] => some []
  | .char c :: rest => (text? rest).map (c :: ·)
  | .half _ :: _ => none

/-- The units of a row of code points. -/
def RawText.units (raw : RawText) : List UInt16 := raw.flatMap CodePoint.units

/-- A row of code points that is no text. -/
structure HalvedText where
  raw : RawText
  halved : raw.text? = none
  deriving DecidableEq, Repr

/-! ### Reading units -/

/-- The code point that a unit is without its neighbours. -/
def codePointOfUnit (u : UInt16) : CodePoint :=
  if h : isSurrogate u = true then .half ⟨u, h⟩ else .char (Char.ofNat u.toNat)

/-- The character of a pair. -/
def pairedChar (high low : UInt16) : Char :=
  Char.ofNat (0x10000 + (high.toNat - 0xD800) * 0x400 + (low.toNat - 0xDC00))

/-- The code points with these units. -/
def rawOfUnits : List UInt16 → RawText
  | [] => []
  | [u] => [codePointOfUnit u]
  | u :: v :: rest =>
      if isHighSurrogate u && isLowSurrogate v then .char (pairedChar u v) :: rawOfUnits rest
      else codePointOfUnit u :: rawOfUnits (v :: rest)

end HotReload
