import HotReload.Value.Display
import HotReload.Value.Excess
/-!
Writing a mapping as a TOML document.

* `tomlDocument` writes a mapping: per table first its plain entries, then its
  sub-tables, each under its header.
* The text that stands before an entry that cannot be written is still there:
  `TomlText` pairs what was written with the fault that stopped the writer.
* A string with a surrogate has a form, but the line that it stands in is no text. The writer is
  stopped where the line would be written (`TomlText.ofChunk`).

An array that holds only tables is written inline if each of them is short enough for
a line of its own, and as tables under double brackets otherwise.

A writer has `room` for a number of open steps. A table under a header takes one, an array
or a table inline takes `inlineSteps` of them.
-/

namespace HotReload

/-- What cannot be written. -/
inductive TomlFault where
  /-- A value of a kind without a form. -/
  | noForm (kind : Text)
  /-- A key that is no row of characters. -/
  | keyNotText (key kind : Text)
  /-- A key that is a row of other things than characters. -/
  | keyNotJoinable (kind : Text)
  /-- A time of day with a distance from UTC. -/
  | zonedTime
  | excess (excess : Excess)
  /-- A surrogate in a header or a line. -/
  | halved
  deriving DecidableEq, Repr

/-- The words for a fault. -/
def TomlFault.message : TomlFault → Text
  | .noForm kind => "Object of type '" ++ kind ++ "' is not TOML serializable"
  | .keyNotText key kind =>
      "Invalid mapping key '" ++ key ++ "' of type '" ++ kind ++ "'. A string is required."
  | .keyNotJoinable kind => "can only concatenate str (not \"" ++ kind ++ "\") to str"
  | .zonedTime => "TOML does not support offset times"
  | .excess e => e.message
  | .halved => "surrogates not allowed"

/-! ### Strings and keys -/

/-- The short escape of a character. -/
def tomlEscape? (c : Char) : Option Text :=
  if c = '\x08' then some ['\\', 'b']
  else if c = '\n' then some ['\\', 'n']
  else if c = '\x0c' then some ['\\', 'f']
  else if c = '\r' then some ['\\', 'r']
  else if c = '"' then some ['\\', '"']
  else if c = '\\' then some ['\\', '\\']
  else none

/-- A character of a string: controls but the tab are escaped. -/
def tomlChar (c : Char) : Text :=
  match tomlEscape? c with
  | some escape => escape
  | none =>
      if (c.toNat < 0x20 ∧ c ≠ '\t') ∨ c.toNat = 0x7F then "\\u" ++ padded 16 4 c.toNat
      else [c]

/-- A code point of a string: a surrogate is not escaped. -/
def tomlPoint : CodePoint → RawText
  | .char c => (tomlChar c).raw
  | .half surrogate => [.half surrogate]

/-- A string between its quotes. -/
def tomlString (raw : RawText) : RawText := .char '"' :: (raw.flatMap tomlPoint ++ [.char '"'])

/-- The characters of a key that needs no quotes. -/
def isBareKeyChar (c : Char) : Bool := c.isAlphanum || c == '_' || c == '-'

/-- A key made of texts of one such character each. -/
def isBareRow (items : List Value) : Bool :=
  !items.isEmpty && items.all fun item =>
    match item with
    | .str [c] => isBareKeyChar c
    | _ => false

/-- A key. -/
def tomlKey : Value → Except TomlFault RawText
  | .str t => .ok (if !t.isEmpty && t.all isBareKeyChar then t.raw else tomlString t.raw)
  | .unpaired t => .ok (tomlString t.raw)
  | .tuple items =>
      if isBareRow items then .ok (Value.tuple items).display.raw
      else .error (.keyNotJoinable "tuple")
  | .bytes _ => .error (.keyNotJoinable "bytes")
  | v => .error (.keyNotText v.display v.kind)

/-! ### Inline values -/

/-- Four blanks for each level. -/
def tomlIndent (level : Nat) : Text := List.replicate (4 * level) ' '

/-- An array around the lines of its items. -/
def tomlArray (level : Nat) (lines : RawText) : RawText :=
  if lines.isEmpty then Text.raw "[]" else Text.raw "[\n" ++ lines ++ tomlIndent level ++ "]"

/-- An inline table around its entries. -/
def tomlTable (pairs : RawText) : RawText :=
  if pairs.isEmpty then [.char '{', .char '}']
  else [.char '{', .char ' '] ++ pairs ++ [.char ' ', .char '}']

/-- The steps that an array or a table takes while what is in it is written inline. -/
def inlineSteps : Nat := 4

mutual

/-- A value on the right of an equals sign, or inside an array at nesting `level`. -/
def tomlInline (room level : Nat) : Value → Except TomlFault RawText
  | .bool true => .ok (Text.raw "true")
  | .bool false => .ok (Text.raw "false")
  | .int n =>
      if digitBound ≤ n.natAbs then .error (.excess .digits) else .ok (signedDecimal n).raw
  | .float x => .ok x.text.raw
  | .nan _ => .ok Double.nan.text.raw
  | .date d => .ok d.iso.raw
  | .moment m => .ok (m.iso ' ').raw
  | .time t => if t.offset.isSome then .error .zonedTime else .ok t.iso.raw
  | .str t => .ok (tomlString t.raw)
  | .unpaired t => .ok (tomlString t.raw)
  | .list items => (tomlItems room level items).map (tomlArray level)
  | .tuple items => (tomlItems room level items).map (tomlArray level)
  | .map entries => (tomlPairs room entries).map tomlTable
  | v => .error (.noForm v.kind)

/-- The lines of an array. -/
def tomlItems (room level : Nat) : List Value → Except TomlFault RawText
  | [] => .ok []
  | item :: items =>
      if room < inlineSteps then .error (.excess .nesting)
      else
        match tomlInline (room - inlineSteps) (level + 1) item with
        | .error fault => .error fault
        | .ok line =>
            (tomlItems room level items).map fun lines =>
              (tomlIndent (level + 1)).raw ++ line ++ ",\n" ++ lines

/-- The entries of an inline table. -/
def tomlPairs (room : Nat) : List (Value × Value) → Except TomlFault RawText
  | [] => .ok []
  | (key, value) :: entries =>
      if room < inlineSteps then .error (.excess .nesting)
      else
        match tomlKey key with
        | .error fault => .error fault
        | .ok name =>
            match tomlInline (room - inlineSteps) 0 value with
            | .error fault => .error fault
            | .ok text =>
                let pair := name ++ " = " ++ text
                match entries with
                | [] => .ok pair
                | more => (tomlPairs room more).map fun pairs => pair ++ ", " ++ pairs

end

/-! ### Tables -/

/-- The steps that are open while a table is tried for a line of an array. -/
def trialSteps : Nat := 3

/-- Whether the table fits into a line of an array. -/
def fitsInline (room : Nat) (table : Value) : Except TomlFault Bool :=
  (tomlInline (room - trialSteps) 0 table).map fun text =>
    text.length ≤ 95 && !text.contains (.char '\n')

/-- Whether all the tables fit, asking up to the first that does not. -/
def allFitInline (room : Nat) : List Value → Except TomlFault Bool
  | [] => .ok true
  | table :: tables =>
      match fitsInline room table with
      | .ok true => allFitInline room tables
      | other => other

/-- Whether a value is a table. -/
def isTable : Value → Bool
  | .map _ => true
  | _ => false

/-- The tables of an array that holds only tables and cannot be inline. -/
def separateTables (room : Nat) (value : Value) : Except TomlFault (List Value) :=
  let consider (items : List Value) : Except TomlFault (List Value) :=
    if !items.isEmpty && items.all isTable then
      (allFitInline room items).map fun fits => if fits then [] else items
    else .ok []
  match value with
  | .list items => consider items
  | .tuple items => consider items
  | _ => .ok []

/-- How an entry of a table is written: after its key, as a table under a header of its
own, or as an array of such tables. -/
inductive EntryForm where
  | plain
  | table
  | tables
  deriving DecidableEq, Repr

/-- The form of an entry with this value. -/
def entryForm (room : Nat) (value : Value) : Except TomlFault EntryForm :=
  if isTable value then .ok .table
  else (separateTables room value).map fun tables => if tables.isEmpty then .plain else .tables

/-- What was written, and the fault that stopped the writer if there was one. -/
structure TomlText where
  text : Text
  fault : Option TomlFault

/-- The second part follows unless the first was stopped. -/
def TomlText.andThen (first second : TomlText) : TomlText :=
  match first.fault with
  | some _ => first
  | none => ⟨first.text ++ second.text, second.fault⟩

/-- A chunk, which is written as a whole or not at all: there must be no fault in it, and no
surrogate. -/
def TomlText.ofChunk : Except TomlFault RawText → TomlText
  | .error fault => ⟨[], some fault⟩
  | .ok raw =>
      match raw.text? with
      | some text => ⟨text, none⟩
      | none => ⟨[], some .halved⟩

/-- The forms of the entries, which are settled before anything is written. -/
def entryForms (room : Nat) : List (Value × Value) → Except TomlFault (List EntryForm)
  | [] => .ok []
  | (_, value) :: entries =>
      match entryForm room value with
      | .error fault => .error fault
      | .ok form => (entryForms room entries).map (form :: ·)

/-- The line of a plain entry. -/
def plainLine (room : Nat) (key value : Value) : Except TomlFault RawText :=
  match tomlKey key with
  | .error fault => .error fault
  | .ok name =>
      (tomlInline room 0 value).map fun text => name ++ " = " ++ text ++ "\n"

/-- The lines of the plain entries. -/
def plainLines (room : Nat) : List (Value × Value) → List EntryForm → TomlText
  | (key, value) :: entries, .plain :: forms =>
      (TomlText.ofChunk (plainLine room key value)).andThen (plainLines room entries forms)
  | _ :: entries, _ :: forms => plainLines room entries forms
  | _, _ => ⟨[], none⟩

/-- The header of a table and its plain entries, if there is room for a table. The table
under the empty name has no header; another one has if it is an element of an array, or has
plain entries, or has nothing at all. -/
def tableHead (room : Nat) (name : RawText) (element : Bool) (entries : List (Value × Value)) :
    TomlText :=
  if room = 0 then ⟨[], some (.excess .nesting)⟩
  else
    match entryForms room entries with
    | .error fault => ⟨[], some fault⟩
    | .ok forms =>
        let header : RawText :=
          if element then Text.raw "[[" ++ name ++ "]]\n"
          else if !name.isEmpty && (forms.contains .plain || forms.isEmpty) then
            Text.raw "[" ++ name ++ "]\n"
          else []
        (TomlText.ofChunk (.ok header)).andThen (plainLines room entries forms)

/-- A header's name below `parent`. -/
def nameBelow (parent key : RawText) : RawText :=
  if parent.isEmpty then key else parent ++ "." ++ key

/-- The blank line before a table, unless nothing has been written in its parent. -/
def tableGap (started : Bool) : TomlText := ⟨if started then ['\n'] else [], none⟩

mutual

/-- The sub-tables among the entries of the table called `parent`; `started` tells
whether anything has been written for it. -/
def subTables (room : Nat) (parent : RawText) (started : Bool) : List (Value × Value) → TomlText
  | [] => ⟨[], none⟩
  | (key, value) :: entries =>
      match value with
      | .map inner =>
          let own :=
            match tomlKey key with
            | .error fault => ⟨[], some fault⟩
            | .ok name =>
                let full := nameBelow parent name
                let head := tableHead (room - 1) full false inner
                head.andThen (subTables (room - 1) full (!head.text.isEmpty) inner)
          ((tableGap started).andThen own).andThen (subTables room parent true entries)
      | .list items =>
          match separateTables room value with
          | .ok (_ :: _) =>
              (elementTables room parent started key items).andThen
                (subTables room parent true entries)
          | _ => subTables room parent started entries
      | .tuple items =>
          match separateTables room value with
          | .ok (_ :: _) =>
              (elementTables room parent started key items).andThen
                (subTables room parent true entries)
          | _ => subTables room parent started entries
      | _ => subTables room parent started entries

/-- The elements of an array of tables, each under its header. -/
def elementTables (room : Nat) (parent : RawText) (started : Bool) (key : Value) :
    List Value → TomlText
  | [] => ⟨[], none⟩
  | .map inner :: items =>
      let own :=
        match tomlKey key with
        | .error fault => ⟨[], some fault⟩
        | .ok name =>
            let full := nameBelow parent name
            let head := tableHead (room - 1) full true inner
            head.andThen (subTables (room - 1) full (!head.text.isEmpty) inner)
      ((tableGap started).andThen own).andThen (elementTables room parent true key items)
  | _ :: items => elementTables room parent started key items

end

/-- A mapping as a document. -/
def tomlDocument (entries : Mapping) : TomlText :=
  let head := tableHead mostOpenSteps [] false entries
  head.andThen (subTables mostOpenSteps [] (!head.text.isEmpty) entries)

end HotReload
