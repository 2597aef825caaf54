import HotReload.Text.Quoted
import HotReload.Value
/-!
The text of a value.

* `Value.display` is the text printed for a value on its own: a text as it is, a
  moment with a space between date and time, anything else quoted. So is a text with a
  surrogate: what would be printed is no `Text`, and is left out here.
* `Value.quoted` is the text of a value inside a list, a tuple or a mapping.
-/

namespace HotReload

mutual

/-- The text of a value inside a container. -/
def Value.quoted : Value → Text
  | .null => "None"
  | .bool true => "True"
  | .bool false => "False"
  | .int n => signedDecimal n
  | .float x => x.text
  | .nan _ => Double.nan.text
  | .str t => t.quoted
  | .unpaired t => t.raw.quoted
  | .bytes b => quotedBytes b
  | .function _ => "<function>"
  | .date d => d.quoted
  | .time t => t.quoted
  | .moment m => m.quoted
  | .list items => '[' :: (Text.join ", " (Value.quotedItems items) ++ [']'])
  | .tuple [item] => '(' :: (item.quoted ++ [',', ')'])
  | .tuple items => '(' :: (Text.join ", " (Value.quotedItems items) ++ [')'])
  | .map entries => '{' :: (Text.join ", " (Value.quotedEntries entries) ++ ['}'])

/-- The texts of items. -/
def Value.quotedItems : List Value → List Text
  | [] => []
  | item :: items => item.quoted :: Value.quotedItems items

/-- The texts of entries: key, colon, value. -/
def Value.quotedEntries : List (Value × Value) → List Text
  | [] => []
  | (key, value) :: entries =>
      (key.quoted ++ [':', ' '] ++ value.quoted) :: Value.quotedEntries entries

end

/-- The text of a value on its own. A text with a surrogate is quoted. -/
def Value.display : Value → Text
  | .str t => t
  | .date d => d.iso
  | .time t => t.iso
  | .moment m => m.iso ' '
  | v => v.quoted

end HotReload
