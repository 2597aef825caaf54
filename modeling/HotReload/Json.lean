import HotReload.Double
import HotReload.Entries
import HotReload.Text.Units
/-!
JSON values and their text.

* `Json` is the type. A string is a list of UTF-16 code units, so that a surrogate
  escape without its partner is a value like any other.
* `Json.write` prints a value in ASCII, with the gaps of a `JsonLayout` after the
  commas and the colons.
-/

namespace HotReload

/-- A JSON value. An object keeps the order of its entries. -/
inductive Json where
  | null
  | bool (b : Bool)
  | int (n : Int)
  | float (x : Double)
  | str (units : List UInt16)
  | arr (items : List Json)
  | obj (entries : List (List UInt16 × Json))
  deriving Inhabited, Repr

/-- What stands between items, and between a key and its value. -/
structure JsonLayout where
  itemGap : Text
  keyGap : Text

/-- No blanks at all. -/
def JsonLayout.compact : JsonLayout := ⟨",", ":"⟩

/-- A blank after each comma and colon. -/
def JsonLayout.spaced : JsonLayout := ⟨", ", ": "⟩

/-- A unit inside a string: printable ASCII stands for itself, a quote and a backslash
after a backslash, and any other unit is an escape. -/
def jsonUnit (u : UInt16) : Text :=
  if u = 0x22 then ['\\', '"']
  else if u = 0x5C then ['\\', '\\']
  else if u = 0x0A then ['\\', 'n']
  else if u = 0x0D then ['\\', 'r']
  else if u = 0x09 then ['\\', 't']
  else if u = 0x08 then ['\\', 'b']
  else if u = 0x0C then ['\\', 'f']
  else if 0x20 ≤ u ∧ u ≤ 0x7E then [Char.ofNat u.toNat]
  else '\\' :: 'u' :: padded 16 4 u.toNat

/-- A string between its quotes. -/
def jsonString (units : List UInt16) : Text := '"' :: (units.flatMap jsonUnit ++ ['"'])

/-- A number, or the name of one that is not finite. -/
def jsonNumber (x : Double) : Text :=
  if x.isNaN then "NaN"
  else if x.isFinite then x.text
  else if x.isNegative then "-Infinity" else "Infinity"

mutual

/-- The text of a value. -/
def Json.write (layout : JsonLayout) : Json → Text
  | .null => "null"
  | .bool true => "true"
  | .bool false => "false"
  | .int n => signedDecimal n
  | .float x => jsonNumber x
  | .str units => jsonString units
  | .arr items => '[' :: (Json.writeItems layout items ++ [']'])
  | .obj entries => '{' :: (Json.writeEntries layout entries ++ ['}'])

/-- The texts of items with gaps between them. -/
def Json.writeItems (layout : JsonLayout) : List Json → Text
  | [] => []
  | [item] => item.write layout
  | item :: items => item.write layout ++ layout.itemGap ++ Json.writeItems layout items

/-- The texts of entries with gaps between them. -/
def Json.writeEntries (layout : JsonLayout) : List (List UInt16 × Json) → Text
  | [] => []
  | [(key, value)] => jsonString key ++ layout.keyGap ++ value.write layout
  | (key, value) :: entries =>
      jsonString key ++ layout.keyGap ++ value.write layout ++ layout.itemGap ++
        Json.writeEntries layout entries

end

end HotReload
