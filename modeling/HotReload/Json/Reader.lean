import HotReload.Json.Literal
import HotReload.Value.Excess
/-!
Reading JSON text.

* `readJsonWithin` reads a whole text, or says why it does not (`JsonRefusal`): what is
  missing and at which line, column and character (`JsonError`), or what there is too much
  of (`JsonLimits`). `readJson` is the reader with the usual limits.
* `Json.toValue` turns what was read into a value.

The reader accepts `NaN`, `Infinity` and `-Infinity`, and keeps integers apart from
numbers with a fraction or an exponent. A fault carries the text that remained where
it arose, from which the position follows at the end.
-/

namespace HotReload

/-- What is wrong with a JSON text. -/
inductive JsonProblem where
  | byteOrderMark
  | expectingValue
  | expectingName
  | expectingColon
  | expectingComma
  | extraData
  | unterminatedString
  | controlCharacter
  | invalidEscape
  | invalidUnitEscape
  deriving DecidableEq, Repr

/-- The words for a problem. -/
def JsonProblem.message : JsonProblem → Text
  | .byteOrderMark => "Unexpected UTF-8 BOM (decode using utf-8-sig)"
  | .expectingValue => "Expecting value"
  | .expectingName => "Expecting property name enclosed in double quotes"
  | .expectingColon => "Expecting ':' delimiter"
  | .expectingComma => "Expecting ',' delimiter"
  | .extraData => "Extra data"
  | .unterminatedString => "Unterminated string starting at"
  | .controlCharacter => "Invalid control character at"
  | .invalidEscape => "Invalid \\escape"
  | .invalidUnitEscape => "Invalid \\uXXXX escape"

/-- Why reading stops: a problem, with the text that remained where it arose, or an excess. -/
inductive JsonFault where
  | malformed (problem : JsonProblem) (rest : Text)
  | excess (excess : Excess)

/-- A problem and its place: line and column from one, character from zero. -/
structure JsonError where
  problem : JsonProblem
  line : Nat
  column : Nat
  position : Nat
  deriving DecidableEq, Repr

/-- The problem followed by its place. -/
def JsonError.message (e : JsonError) : Text :=
  e.problem.message ++ ": line " ++ decimal e.line ++ " column " ++ decimal e.column ++
    " (char " ++ decimal e.position ++ ")"

/-- How many levels of lists and objects a text may have one inside the other, and how many
digits an integer, where there is a limit. -/
structure JsonLimits where
  levels : Option Nat
  digits : Option Nat
  deriving DecidableEq, Repr

namespace JsonLimits

/-- No limits. -/
def none : JsonLimits := ⟨.none, .none⟩

/-- The limits that hold unless others are given. -/
def usual : JsonLimits := ⟨some mostOpenSteps, some mostDigits⟩

/-- Whether a number lies above a limit. -/
def exceeded (limit : Option Nat) (n : Nat) : Bool :=
  match limit with
  | .none => false
  | some most => most < n

end JsonLimits

/-- Why a text is not read. -/
inductive JsonRefusal where
  | malformed (error : JsonError)
  | excess (excess : Excess)
  deriving DecidableEq, Repr

/-- A problem that arose in the whole text where `rest` remained. -/
def JsonProblem.locate (text rest : Text) (problem : JsonProblem) : JsonError :=
  let position := text.length - rest.length
  let before := text.take position
  ⟨problem, before.count '\n' + 1, (before.reverse.takeWhile (· != '\n')).length + 1,
    position⟩

/-- A fault as the refusal of the whole text. -/
def JsonFault.refusal (text : Text) : JsonFault → JsonRefusal
  | .malformed problem rest => .malformed (problem.locate text rest)
  | .excess e => .excess e

/-- What a step reads: its result and the rest of the text, or a fault. -/
abbrev JsonStep (α : Type) := Except JsonFault (α × Text)

/-- The text without the blanks at its start. -/
def skipJsonBlanks : Text → Text
  | [] => []
  | c :: rest =>
      if c = ' ' ∨ c = '\t' ∨ c = '\n' ∨ c = '\r' then skipJsonBlanks rest else c :: rest

/-! ### Strings -/

/-- The unit that four hexadecimal digits write. -/
def unitOfDigits? (a b c d : Char) : Option UInt16 := do
  let a ← hexDigit? a
  let b ← hexDigit? b
  let c ← hexDigit? c
  let d ← hexDigit? d
  return (((a * 16 + b) * 16 + c) * 16 + d).toUInt16

/-- The unit that a letter stands for after a backslash. -/
def escapeLetter? (c : Char) : Option UInt16 :=
  if c = '"' then some 0x22
  else if c = '\\' then some 0x5C
  else if c = '/' then some 0x2F
  else if c = 'b' then some 0x08
  else if c = 'f' then some 0x0C
  else if c = 'n' then some 0x0A
  else if c = 'r' then some 0x0D
  else if c = 't' then some 0x09
  else none

/-- Units before those that a step reads. -/
def JsonStep.withUnits (units : List UInt16) (step : JsonStep (List UInt16)) :
    JsonStep (List UInt16) :=
  step.map fun (more, rest) => (units ++ more, rest)

/-- The units up to the closing quote of the string that `opening` begins with. An escape by
digits cannot be the last thing in the text. -/
def readStringBody (opening : Text) : Text → JsonStep (List UInt16)
  | [] => .error (.malformed .unterminatedString opening)
  | c :: rest =>
      if c = '"' then .ok ([], rest)
      else if c = '\\' then
        match rest with
        | [] => .error (.malformed .unterminatedString opening)
        | d :: after =>
            if d = 'u' then
              let invalid := JsonFault.malformed .invalidUnitEscape (d :: after)
              match after with
              | h₁ :: h₂ :: h₃ :: h₄ :: r :: tail =>
                  match unitOfDigits? h₁ h₂ h₃ h₄ with
                  | some unit => (readStringBody opening (r :: tail)).withUnits [unit]
                  | none => .error invalid
              | _ => .error invalid
            else
              match escapeLetter? d with
              | some unit => (readStringBody opening after).withUnits [unit]
              | none => .error (.malformed .invalidEscape (c :: rest))
      else if c.toNat < 0x20 then .error (.malformed .controlCharacter (c :: rest))
      else (readStringBody opening rest).withUnits (charUnits c)

/-- A string, from its opening quote. -/
def readString (opening : Text) : JsonStep (List UInt16) :=
  readStringBody opening (opening.drop 1)

/-! ### Numbers -/

/-- A minus sign that may be left out: whether it is there, and what is behind it. -/
def readMinus : Text → Bool × Text
  | '-' :: rest => (true, rest)
  | rest => (false, rest)

/-- The integer part: a zero, or digits that do not begin with one. -/
def readWhole : Text → Option (List Nat × Text)
  | '0' :: rest => some ([0], rest)
  | text =>
      match spanDigits decimalDigit? text with
      | ([], _) => none
      | (ds, rest) => some (ds, rest)

/-- The fraction part, if a digit follows the point. -/
def readFraction (text : Text) : Option (List Nat × Text) :=
  match text with
  | '.' :: rest =>
      match spanDigits decimalDigit? rest with
      | ([], _) => none
      | (ds, rest) => some (ds, rest)
  | _ => none

/-- A number: an integer unless it has a fraction or an exponent. -/
def readNumber (limits : JsonLimits) (text : Text) : JsonStep Json :=
  let (negative, digits) := readMinus text
  match readWhole digits with
  | none => .error (.malformed .expectingValue text)
  | some (whole, rest) =>
      let n : Int := numeralValue 10 whole
      match readFraction rest, Double.readPower rest with
      | none, none =>
          if JsonLimits.exceeded limits.digits whole.length then .error (.excess .digits)
          else .ok (.int (if negative then -n else n), rest)
      | none, some (power, rest) => .ok (.float (.ofParts negative whole [] power), rest)
      | some (fraction, rest), _ =>
          match Double.readPower rest with
          | none => .ok (.float (.ofParts negative whole fraction 0), rest)
          | some (power, rest) => .ok (.float (.ofParts negative whole fraction power), rest)

/-! ### Values -/

/-- The words that stand for values. -/
def jsonWords : List (Text × Json) :=
  [("null", .null), ("true", .bool true), ("false", .bool false), ("NaN", .float .nan),
    ("Infinity", .float (.infinity false)), ("-Infinity", .float (.infinity true))]

/-- The word that a text begins with, and the rest. -/
def readWord (text : Text) : Option (Json × Text) :=
  jsonWords.findSome? fun (word, value) =>
    if word.isPrefixOf text then some (value, text.drop word.length) else none

mutual

/-- A value with so many lists and objects around it. -/
def readValue (limits : JsonLimits) (levels : Nat) : Nat → Text → JsonStep Json
  | 0, text => .error (.malformed .expectingValue text)
  | fuel + 1, text =>
      match text with
      | [] => .error (.malformed .expectingValue text)
      | c :: rest =>
          if c = '"' then (readString text).map fun (units, r) => (.str units, r)
          else if (c = '{' ∨ c = '[') ∧ JsonLimits.exceeded limits.levels (levels + 1) then
            .error (.excess .nesting)
          else if c = '{' then
            let inner := skipJsonBlanks rest
            match inner with
            | '}' :: after => .ok (.obj [], after)
            | _ =>
                (readEntries limits (levels + 1) fuel [] inner).map fun (entries, r) =>
                  (.obj entries, r)
          else if c = '[' then
            let inner := skipJsonBlanks rest
            match inner with
            | ']' :: after => .ok (.arr [], after)
            | _ =>
                (readItems limits (levels + 1) fuel inner).map fun (items, r) => (.arr items, r)
          else
            match readWord text with
            | some found => .ok found
            | none => readNumber limits text

/-- The items of a list up to its closing bracket. -/
def readItems (limits : JsonLimits) (levels : Nat) : Nat → Text → JsonStep (List Json)
  | 0, text => .error (.malformed .expectingValue text)
  | fuel + 1, text =>
      match readValue limits levels fuel text with
      | .error fault => .error fault
      | .ok (item, rest) =>
          match skipJsonBlanks rest with
          | ']' :: after => .ok ([item], after)
          | ',' :: after =>
              (readItems limits levels fuel (skipJsonBlanks after)).map fun (items, r) =>
                (item :: items, r)
          | rest => .error (.malformed .expectingComma rest)

/-- The entries of an object up to its closing brace, written after those in
`entries`. -/
def readEntries (limits : JsonLimits) (levels fuel : Nat)
    (entries : List (List UInt16 × Json)) (text : Text) :
    JsonStep (List (List UInt16 × Json)) :=
  match fuel with
  | 0 => .error (.malformed .expectingName text)
  | fuel + 1 =>
      match text with
      | '"' :: _ =>
          match readString text with
          | .error fault => .error fault
          | .ok (key, rest) =>
              match skipJsonBlanks rest with
              | ':' :: rest =>
                  match readValue limits levels fuel (skipJsonBlanks rest) with
                  | .error fault => .error fault
                  | .ok (value, rest) =>
                      let entries := Json.putEntry key value entries
                      match skipJsonBlanks rest with
                      | '}' :: after => .ok (entries, after)
                      | ',' :: after =>
                          readEntries limits levels fuel entries (skipJsonBlanks after)
                      | rest => .error (.malformed .expectingComma rest)
              | rest => .error (.malformed .expectingColon rest)
      | _ => .error (.malformed .expectingName text)

end

/-- Reads a text that is a JSON value with blanks around it. -/
def readJsonWithin (limits : JsonLimits) (text : Text) : Except JsonRefusal Json :=
  let fail (fault : JsonFault) : Except JsonRefusal Json := .error (fault.refusal text)
  if text.head? = some '\uFEFF' then fail (.malformed .byteOrderMark text)
  else
    match readValue limits 0 (2 * text.length + 2) (skipJsonBlanks text) with
    | .error fault => fail fault
    | .ok (value, rest) =>
        match skipJsonBlanks rest with
        | [] => .ok value
        | rest => fail (.malformed .extraData rest)

/-- Reads a text that is a JSON value with blanks around it, within the usual limits. -/
def readJson (text : Text) : Except JsonRefusal Json := readJsonWithin .usual text

/-! ### Values -/

/-- The value of a string: a text if every surrogate has its partner. -/
def valueOfUnits (units : List UInt16) : Value := valueOfRaw (rawOfUnits units)

mutual

/-- What was read, as a value. -/
def Json.toValue : Json → Value
  | .null => .null
  | .bool b => .bool b
  | .int n => .int n
  | .float x => .float x
  | .str units => valueOfUnits units
  | .arr items => .list (Json.toValues items)
  | .obj entries => .map (Json.toMapping entries)

/-- The items as values. -/
def Json.toValues : List Json → List Value
  | [] => []
  | item :: items => item.toValue :: Json.toValues items

/-- The entries as those of a mapping. -/
def Json.toMapping : List (List UInt16 × Json) → Mapping
  | [] => []
  | (key, value) :: entries => (valueOfUnits key, value.toValue) :: Json.toMapping entries

end

end HotReload
