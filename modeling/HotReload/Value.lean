import HotReload.Calendar
import HotReload.Double
import HotReload.Entries
import HotReload.Text.Units
/-!
Values as they pass through options, compile results and configuration files.

* `Value` is the type, `Mapping` an ordered list of entries.
* `Value.isTruthy` is the truth value: empty and zero values are false.
* `Value.same` is the equality by which keys and items are found: a truth value, an integer
  and a double are equal as numbers, a list and a tuple never, and what has an identity is
  equal to itself only.
* `Mapping.put` writes an entry: a key that is present keeps its place and takes the
  new value, a new key goes to the end.
-/

namespace HotReload

/-- A value. -/
inductive Value where
  | null
  | bool (b : Bool)
  | int (n : Int)
  | float (x : Double)
  /-- The number that is none, as the object of this identity. Wherever the same object
  stands it is the same key, while `float` with a number that is none is a new object. -/
  | nan (identity : Nat)
  | str (text : Text)
  /-- A text with a surrogate that has no partner. -/
  | unpaired (text : HalvedText)
  | bytes (bytes : List UInt8)
  /-- A function or other object without a literal, which has an identity. -/
  | function (identity : Nat)
  | date (d : Date)
  | time (t : Time)
  | moment (m : Moment)
  | list (items : List Value)
  | tuple (items : List Value)
  | map (entries : List (Value × Value))
  deriving Inhabited, Repr

/-- Entries in their order. -/
abbrev Mapping := List (Value × Value)

/-- A literal stands for the text value. -/
instance valueOfString : Coe String Value := ⟨fun s => .str s.toList⟩

/-- The kinds of value, as messages name them. -/
def Value.kind : Value → Text
  | .null => "NoneType"
  | .bool _ => "bool"
  | .int _ => "int"
  | .float _ | .nan _ => "float"
  | .str _ => "str"
  | .unpaired _ => "str"
  | .bytes _ => "bytes"
  | .function _ => "function"
  | .date _ => "date"
  | .time _ => "time"
  | .moment _ => "datetime"
  | .list _ => "list"
  | .tuple _ => "tuple"
  | .map _ => "dict"

/-- Empty texts, bytes and containers, zeros, the false truth value and null are false;
every other value is true. -/
def Value.isTruthy : Value → Bool
  | .null => false
  | .bool b => b
  | .int n => n != 0
  | .float x => !x.isZero
  | .str t => !t.isEmpty
  | .bytes b => !b.isEmpty
  | .list xs => !xs.isEmpty
  | .tuple xs => !xs.isEmpty
  | .map es => !es.isEmpty
  | .nan _ | .unpaired _ | .function _ | .date _ | .time _ | .moment _ => true

/-! ### Equality -/

/-- Equality of values that are not containers. An object that is compared with itself is the
same even if it is a number that is none. -/
def Value.sameScalar : Value → Value → Bool
  | .null, .null => true
  | .bool a, .bool b => a == b
  | .bool a, .int n => n == (if a then 1 else 0)
  | .int n, .bool b => n == (if b then 1 else 0)
  | .int m, .int n => m == n
  | .float x, .float y => x.equals y
  | .float x, .int n => x.equalsInt n
  | .int n, .float x => x.equalsInt n
  | .float x, .bool b => x.equalsInt (if b then 1 else 0)
  | .bool b, .float x => x.equalsInt (if b then 1 else 0)
  | .nan a, .nan b => a == b
  | .str a, .str b => a == b
  | .unpaired a, .unpaired b => a == b
  | .bytes a, .bytes b => a == b
  | .function a, .function b => a == b
  | .date a, .date b => a == b
  | .time a, .time b => a.equals b
  | .moment a, .moment b => a.equals b
  | _, _ => false

mutual

/-- Equality of values. -/
def Value.same : Value → Value → Bool
  | .list xs, v => match v with
    | .list ys => Value.sameItems xs ys
    | _ => false
  | .tuple xs, v => match v with
    | .tuple ys => Value.sameItems xs ys
    | _ => false
  | .map es, v => match v with
    | .map fs => es.length == fs.length && Value.sameEntries es fs
    | _ => false
  | v, w => Value.sameScalar v w

/-- Equality item by item. -/
def Value.sameItems : List Value → List Value → Bool
  | [], [] => true
  | x :: xs, y :: ys => Value.same x y && Value.sameItems xs ys
  | _, _ => false

/-- Whether each of the first entries stands among the second. -/
def Value.sameEntries : List (Value × Value) → List (Value × Value) → Bool
  | [], _ => true
  | (k, v) :: es, fs =>
      (fs.any fun f => Value.same k f.1 && Value.same v f.2) && Value.sameEntries es fs

end

/-! ### Mappings -/

namespace Mapping

/-- The value of the first entry with this key. -/
def get? (key : Value) (entries : Mapping) : Option Value := getBy? Value.same key entries

/-- Writes an entry: over the one with an equal key, or at the end. -/
def put (key value : Value) (entries : Mapping) : Mapping := putBy Value.same key value entries

/-- Writes entries in turn. -/
def putAll (entries more : Mapping) : Mapping := putAllBy Value.same entries more

/-- The mapping that results from writing the entries in turn. -/
def ofEntries (entries : Mapping) : Mapping := putAll [] entries

/-- The value under a text key. -/
def field? (key : Text) (entries : Mapping) : Option Value := get? (.str key) entries

/-- The value under a text key, or null. -/
def field (key : Text) (entries : Mapping) : Value := (field? key entries).getD .null

end Mapping

/-- The value of a row of code points. -/
def valueOfRaw (raw : RawText) : Value :=
  match h : raw.text? with
  | some text => .str text
  | none => .unpaired ⟨raw, h⟩

/-- The row of code points of a text. -/
def Value.raw? : Value → Option RawText
  | .str text => some text.raw
  | .unpaired text => some text.raw
  | _ => none

/-- Whether a value may be looked up as a key: lists and mappings may not, nor tuples
that hold one. -/
def Value.isKey : Value → Bool
  | .list _ | .map _ => false
  | .tuple items => isKeyItems items
  | _ => true
where
  /-- Whether every item may be looked up as a key. -/
  isKeyItems : List Value → Bool
    | [] => true
    | x :: xs => isKey x && isKeyItems xs

end HotReload
