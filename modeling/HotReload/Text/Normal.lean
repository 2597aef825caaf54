import HotReload.Text.Normal.Tables
import HotReload.Text.Numeral
/-!
Normal forms of identifiers.

* `decompose` takes a character apart into those that it is made of: a letter and its
  accents, a ligature and its letters, a syllable and its sounds.
* `insertMark` puts the marks on a letter in the order of their classes.
* `Text.normal` is the normal form of a text. Two identifiers are the same if their normal
  forms are equal.
-/

namespace HotReload

/-! ### Rows of words -/

/-- The number that a row of hexadecimal digits stands for. -/
def hexNumber (digits : Text) : Nat := numeralValue 16 (digits.filterMap digitValue?)

/-- The two ends of a range, which are the same if only one is given. -/
def rangeEnds (range : Text) : Nat × Nat :=
  match Text.split '-' range with
  | [first, last] => (hexNumber first, hexNumber last)
  | _ => (hexNumber range, hexNumber range)

/-- The words of rows, each with its range and what is said of it. -/
def rangeWords (rows : List String) : List ((Nat × Nat) × Text) :=
  rows.flatMap fun row =>
    (Text.split ' ' row.toList).filterMap fun word =>
      match Text.split ':' word with
      | [range, said] => some (rangeEnds range, said)
      | _ => none

/-- What is said of a number in one of the ranges, and its distance from the first number of
the range. -/
def inWords {α : Type} (words : List ((Nat × Nat) × α)) (n : Nat) : Option (Nat × α) :=
  words.findSome? fun ((first, last), said) =>
    if first ≤ n ∧ n ≤ last then some (n - first, said) else none

/-! ### Decomposition -/

/-- The ranges of characters that come apart, and what their first characters come apart
into. -/
def decompositions : List ((Nat × Nat) × List Nat) :=
  let rows :=
    [decompositionRowsA, decompositionRowsB, decompositionRowsC, decompositionRowsD,
      decompositionRowsE, decompositionRowsF, decompositionRowsG, decompositionRowsH]
  (rangeWords rows.flatten).map fun (range, said) =>
    (range, (Text.split '+' said).map hexNumber)

/-- The first syllable of Hangul. -/
def firstSyllable : Nat := 0xAC00

/-- The number of syllables: of nineteen first sounds, twenty-one vowels and twenty-eight
last sounds, the first of which is silent. -/
def syllableCount : Nat := 19 * 21 * 28

/-- The sounds of the syllable of this number. -/
def syllableSounds (number : Nat) : List Nat :=
  let start := 0x1100 + number / (21 * 28)
  let vowel := 0x1161 + number % (21 * 28) / 28
  let last := number % 28
  if last = 0 then [start, vowel] else [start, vowel, 0x11A7 + last]

/-- What a character comes apart into. -/
def decompose (c : Char) : Text :=
  let n := c.toNat
  if firstSyllable ≤ n ∧ n < firstSyllable + syllableCount then
    (syllableSounds (n - firstSyllable)).map Char.ofNat
  else
    match inWords decompositions n with
    | some (distance, parts) => parts.map fun part => Char.ofNat (part + distance)
    | none => [c]

/-! ### The order of marks -/

/-- The ranges of marks and their classes. -/
def combiningClasses : List ((Nat × Nat) × Nat) :=
  (rangeWords combiningClassRows).map fun (range, said) =>
    (range, numeralValue 10 (said.filterMap digitValue?))

/-- The combining class of a character: zero if it is no mark, or a mark that keeps its
place. -/
def combiningClass (c : Char) : Nat :=
  if c.toNat < 0x300 then 0 else ((inWords combiningClasses c.toNat).map (·.2)).getD 0

/-- Puts a character before a text, behind the marks of smaller classes at its start. -/
def insertMark (c : Char) : Text → Text
  | [] => [c]
  | d :: rest =>
      if 0 < combiningClass d ∧ combiningClass d < combiningClass c then d :: insertMark c rest
      else c :: d :: rest

/-! ### Normal forms -/

/-- Whether a character is one of ASCII. -/
def isAscii (c : Char) : Bool := c.toNat < 0x80

/-- The normal form of a text: its characters taken apart, with marks in order. -/
def Text.normal (text : Text) : Text :=
  if text.all isAscii then text else (text.flatMap decompose).foldr insertMark []

end HotReload
