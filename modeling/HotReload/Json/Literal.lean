import HotReload.Json
import HotReload.Value.Display
/-!
Values as literals in generated code.

* `Value.toJson?` reduces a value to the part that JSON can express: a number that is
  not finite is null, an item that cannot be expressed is null, an entry whose value
  cannot be expressed is left out, and a key is the text of the key.
* `jsonLiteral` and `codeLiteral` print it without blanks, and `undefined` for a value
  that cannot be expressed.
* `Value.exactJson?` is the stricter reading of `spacedJson`, which fails where
  something cannot be expressed.
-/

namespace HotReload

/-- The units of the text of a key. -/
def Value.keyUnits : Value → List UInt16
  | .unpaired text => text.raw.units
  | v => v.display.units

/-- Writes an entry of an object, over the one with the same key. -/
def Json.putEntry (key : List UInt16) (value : Json) (entries : List (List UInt16 × Json)) :
    List (List UInt16 × Json) :=
  putBy (· == ·) key value entries

mutual

/-- The part of a value that JSON can express, if there is one. -/
def Value.toJson? : Value → Option Json
  | .null => some .null
  | .bool b => some (.bool b)
  | .int n => some (.int n)
  | .float x => some (if x.isFinite then .float x else .null)
  | .nan _ => some .null
  | .str t => some (.str t.units)
  | .unpaired t => some (.str t.raw.units)
  | .list items => some (.arr (Value.toJsonItems items))
  | .tuple items => some (.arr (Value.toJsonItems items))
  | .map entries => some (.obj (putAllBy (· == ·) [] (Value.toJsonEntries entries)))
  | .bytes _ | .function _ | .date _ | .time _ | .moment _ => none

/-- The items, null where one cannot be expressed. -/
def Value.toJsonItems : List Value → List Json
  | [] => []
  | item :: items => item.toJson?.getD .null :: Value.toJsonItems items

/-- The entries that can be expressed, under the texts of their keys. -/
def Value.toJsonEntries : List (Value × Value) → List (List UInt16 × Json)
  | [] => []
  | (key, value) :: entries =>
      match value.toJson? with
      | some json => (key.keyUnits, json) :: Value.toJsonEntries entries
      | none => Value.toJsonEntries entries

end

/-- The literal of a value, null printed as `null`. -/
def jsonLiteral (v : Value) : Text :=
  match v.toJson? with
  | some json => json.write .compact
  | none => "undefined"

/-- The literal of a value, null printed as `null` if `null` is set and as `undefined`
otherwise. -/
def codeLiteral (v : Value) (null : Bool) : Text :=
  match v with
  | .null => if null then "null" else "undefined"
  | v => jsonLiteral v

mutual

/-- The value as JSON, if all of it can be expressed; numbers that are not finite have
names here. -/
def Value.exactJson? : Value → Option Json
  | .null => some .null
  | .bool b => some (.bool b)
  | .int n => some (.int n)
  | .float x => some (.float x)
  | .nan _ => some (.float .nan)
  | .str t => some (.str t.units)
  | .unpaired t => some (.str t.raw.units)
  | .list items => (Value.exactJsonItems? items).map .arr
  | .tuple items => (Value.exactJsonItems? items).map .arr
  | .map entries => (Value.exactJsonEntries? entries).map .obj
  | .bytes _ | .function _ | .date _ | .time _ | .moment _ => none

/-- The items, if all of them can be expressed. -/
def Value.exactJsonItems? : List Value → Option (List Json)
  | [] => some []
  | item :: items =>
      match item.exactJson?, Value.exactJsonItems? items with
      | some json, some rest => some (json :: rest)
      | _, _ => none

/-- The entries, if all keys are texts and all values can be expressed. -/
def Value.exactJsonEntries? : List (Value × Value) → Option (List (List UInt16 × Json))
  | [] => some []
  | (key, value) :: entries =>
      match key, value.exactJson?, Value.exactJsonEntries? entries with
      | .str name, some json, some rest => some ((name.units, json) :: rest)
      | .unpaired name, some json, some rest => some ((name.raw.units, json) :: rest)
      | _, _, _ => none

end

/-- The value as JSON with blanks, if all of it can be expressed. -/
def spacedJson (v : Value) : Option Text := v.exactJson?.map (Json.write .spaced)

end HotReload
