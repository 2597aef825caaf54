import HotReload.Value.Excess
/-!
Reading a TOML document.

* `readToml` gives the mapping of a document, or tells why there is none (`TomlRefusal`).
* `TomlDocument` is the mapping read so far, together with the marks that keep a
  table from being declared twice and an inline value from being extended.

A reader of a part takes the text and returns what it read and the rest.
-/

namespace HotReload

/-- Why a text is not read: it is no TOML document, or there is too much of something. -/
inductive TomlRefusal where
  | malformed
  | excess (excess : Excess)
  deriving DecidableEq, Repr

/-- What is read, or a refusal. -/
abbrev TomlResult := Except TomlRefusal

/-- What is read, if it is there. -/
def orMalformed {α : Type} : Option α → TomlResult α
  | some a => .ok a
  | none => .error .malformed

/-- The names from the root of a document to a place in it. -/
abbrev TomlPath := List Text

/-! ### Characters -/

/-- Blanks within a line. -/
def isTomlBlank (c : Char) : Bool := c == ' ' || c == '\t'

/-- Characters that may not stand in a comment or in a string of one line. -/
def isIllegal (c : Char) : Bool := (c.toNat < 0x20 && c != '\t') || c.toNat == 0x7F

/-- Characters that may not stand in a string of several lines. -/
def isIllegalInLines (c : Char) : Bool := isIllegal c && c != '\n'

/-- The text without the blanks at its start. -/
def skipTomlBlanks (text : Text) : Text := text.dropWhile isTomlBlank

/-- Passes over a comment, if there is one, up to the end of the line. -/
def skipComment? (text : Text) : Option Text :=
  match text with
  | '#' :: rest =>
      if (rest.takeWhile (· != '\n')).any isIllegal then none
      else some (rest.dropWhile (· != '\n'))
  | _ => some text

/-- Passes over blanks, line ends and comments. -/
def skipLines? : Nat → Text → Option Text
  | 0, text => some text
  | fuel + 1, text => do
      let blanksGone := text.dropWhile fun c => isTomlBlank c || c == '\n'
      let rest ← skipComment? blanksGone
      if rest.length = text.length then return rest else skipLines? fuel rest

/-! ### Strings -/

/-- Exactly `n` hexadecimal digits. -/
def readHexDigits : Nat → Nat → Text → Option (Nat × Text)
  | 0, value, text => some (value, text)
  | n + 1, value, c :: rest =>
      match hexDigit? c with
      | some d => readHexDigits n (value * 16 + d) rest
      | none => none
  | _ + 1, _, [] => none

/-- The character given by `n` hexadecimal digits. -/
def readCodePoint (n : Nat) (text : Text) : Option (Text × Text) :=
  match readHexDigits n 0 text with
  | some (code, rest) =>
      if code.isValidChar then some ([Char.ofNat code], rest) else none
  | none => none

/-- What stands after a backslash. In a string of several lines a backslash at the end
of a line takes the blanks and line ends after it away. -/
def readTomlEscape (lines : Bool) (text : Text) : Option (Text × Text) :=
  match text with
  | [] => none
  | c :: rest =>
      if lines && (isTomlBlank c || c == '\n') then
        let continued (text : Text) : Text :=
          text.dropWhile fun c => isTomlBlank c || c == '\n'
        match skipTomlBlanks text with
        | [] => some ([], [])
        | '\n' :: after => some ([], continued after)
        | _ => none
      else if c = 'u' then readCodePoint 4 rest
      else if c = 'U' then readCodePoint 8 rest
      else if c = 'b' then some (['\x08'], rest)
      else if c = 't' then some (['\t'], rest)
      else if c = 'n' then some (['\n'], rest)
      else if c = 'f' then some (['\x0c'], rest)
      else if c = 'r' then some (['\r'], rest)
      else if c = '"' then some (['"'], rest)
      else if c = '\\' then some (['\\'], rest)
      else none

/-- A string with escapes, after its opening quotes. -/
def readBasicString (lines : Bool) : Nat → Text → Option (Text × Text)
  | 0, _ => none
  | _ + 1, [] => none
  | fuel + 1, c :: rest =>
      if c = '"' && !lines then some ([], rest)
      else if c = '"' && ['"', '"'].isPrefixOf rest then some ([], rest.drop 2)
      else if c = '\\' then do
        let (escaped, rest) ← readTomlEscape lines rest
        let (text, rest) ← readBasicString lines fuel rest
        return (escaped ++ text, rest)
      else if (if lines then isIllegalInLines c else isIllegal c) then none
      else do
        let (text, rest) ← readBasicString lines fuel rest
        return (c :: text, rest)

/-- A string without escapes, after its opening quotes and up to `closing`. -/
def readLiteralString (closing : Text) (illegal : Char → Bool) (text : Text) :
    Option (Text × Text) :=
  match Text.cut? closing text with
  | some (inner, rest) => if inner.any illegal then none else some (inner, rest)
  | none => none

/-- A string of several lines may end in one or two quotes of its own. -/
def closingQuotes (quote : Char) (inner rest : Text) : Text × Text :=
  match rest with
  | a :: b :: after =>
      if a = quote then
        if b = quote then (inner ++ [a, b], after) else (inner ++ [a], b :: after)
      else (inner, rest)
  | [a] => if a = quote then (inner ++ [a], []) else (inner, rest)
  | [] => (inner, [])

/-- The text after a line end at its start, if there is one. -/
def skipLineEnd : Text → Text
  | '\n' :: rest => rest
  | text => text

/-- A string of any of the four forms. -/
def readTomlString (text : Text) : Option (Text × Text) :=
  match text with
  | '"' :: '"' :: '"' :: rest =>
      let rest := skipLineEnd rest
      (readBasicString true (rest.length + 1) rest).map fun (inner, r) => closingQuotes '"' inner r
  | '"' :: rest => readBasicString false (rest.length + 1) rest
  | '\'' :: '\'' :: '\'' :: rest =>
      (readLiteralString ['\'', '\'', '\''] isIllegalInLines (skipLineEnd rest)).map
        fun (inner, r) => closingQuotes '\'' inner r
  | '\'' :: rest => readLiteralString ['\''] isIllegal rest
  | _ => none

/-! ### Keys -/

/-- The characters of a key without quotes. -/
def isTomlKeyChar (c : Char) : Bool := c.isAlphanum || c == '_' || c == '-'

/-- One name of a key: bare, or a string of one line. -/
def readKeyPart (text : Text) : Option (Text × Text) :=
  match text with
  | '"' :: rest => readBasicString false (rest.length + 1) rest
  | '\'' :: rest => readLiteralString ['\''] isIllegal rest
  | _ =>
      match text.takeWhile isTomlKeyChar with
      | [] => none
      | name => some (name, text.dropWhile isTomlKeyChar)

/-- Names with points between them, and the blanks after them. -/
def readKey : Nat → Text → Option (TomlPath × Text)
  | 0, _ => none
  | fuel + 1, text => do
      let (part, rest) ← readKeyPart text
      match skipTomlBlanks rest with
      | '.' :: rest => do
          let (parts, rest) ← readKey fuel (skipTomlBlanks rest)
          return (part :: parts, rest)
      | rest => return ([part], rest)

/-! ### Numbers, dates and times -/

/-- Digits, each after the first with one underscore before it or none. -/
def readUnderscored (digit? : Char → Option Nat) : Text → Option (List Nat × Text)
  | [] => none
  | c :: rest =>
      match digit? c with
      | none => none
      | some d =>
          match readUnderscored digit? rest with
          | some (ds, after) => some (d :: ds, after)
          | none =>
              match rest with
              | '_' :: more =>
                  match readUnderscored digit? more with
                  | some (ds, after) => some (d :: ds, after)
                  | none => some ([d], rest)
              | _ => some ([d], rest)

/-- The value of a digit below the base. -/
def digitBelow? (base : Nat) (c : Char) : Option Nat :=
  (hexDigit? c).filter (· < base)

/-- An integer in base sixteen, eight or two. -/
def readBased : Text → Option (Value × Text)
  | '0' :: letter :: rest =>
      let base :=
        if letter = 'x' then 16 else if letter = 'o' then 8 else if letter = 'b' then 2 else 0
      (readUnderscored (digitBelow? base) rest).map fun (ds, after) =>
        (.int (numeralValue base ds), after)
  | _ => none

/-- The digits of an integer part: a zero, or digits that do not begin with one. -/
def readTomlWhole : Text → Option (List Nat × Text)
  | '0' :: rest => some ([0], rest)
  | text => readUnderscored decimalDigit? text

/-- A sign, which may be left out. -/
def readSign : Text → Bool × Text
  | '-' :: rest => (true, rest)
  | '+' :: rest => (false, rest)
  | rest => (false, rest)

/-- The exponent of a number, if there is one. -/
def readTomlPower : Text → Option (Int × Text)
  | c :: rest =>
      if c = 'e' ∨ c = 'E' then
        let (negative, rest) := readSign rest
        (readUnderscored decimalDigit? rest).map fun (ds, after) =>
          let n : Int := numeralValue 10 ds
          (if negative then -n else n, after)
      else none
  | [] => none

/-- The fraction of a number, if there is one. -/
def readTomlFraction : Text → Option (List Nat × Text)
  | '.' :: rest => readUnderscored decimalDigit? rest
  | _ => none

/-- A decimal number: an integer unless it has a fraction or an exponent. -/
def readTomlDecimal (text : Text) : Option (Value × Text) := do
  let (negative, rest) := readSign text
  let (whole, rest) ← readTomlWhole rest
  let (fraction, rest, hasFraction) :=
    match readTomlFraction rest with
    | some (ds, after) => (ds, after, true)
    | none => ([], rest, false)
  match readTomlPower rest with
  | some (power, after) => return (.float (.ofParts negative whole fraction power), after)
  | none =>
      if hasFraction then return (.float (.ofParts negative whole fraction 0), rest)
      else
        let n : Int := numeralValue 10 whole
        return (.int (if negative then -n else n), rest)

/-- A number that is not finite. -/
def readTomlSpecial (text : Text) : Option (Value × Text) :=
  let (negative, rest) := readSign text
  if ("inf" : Text).isPrefixOf rest then some (.float (.infinity negative), rest.drop 3)
  else if ("nan" : Text).isPrefixOf rest then some (.float .nan, rest.drop 3)
  else none

/-- A moment, a date or a time of day. `none` means that the text begins with none of
them, `some none` that it begins with a day that does not exist. -/
def readTomlDate (text : Text) : Option (Option (Value × Text)) :=
  match Date.read? text with
  | some (date, rest) =>
      if !date.isValid then some none
      else
        match Moment.read? text with
        | some (moment, rest) => some (some (.moment moment, rest))
        | none => some (some (.date date, rest))
  | none =>
      match Time.read? text with
      | some (time, rest) => some (some (.time time, rest))
      | none => none

/-- A number. An integer that is written in decimal may have too many digits. -/
def readTomlNumber (text : Text) : TomlResult (Value × Text) :=
  match readBased text with
  | some found => .ok found
  | none =>
      match readTomlDecimal text with
      | some (.int n, rest) =>
          if digitBound ≤ n.natAbs then .error (.excess .digits) else .ok (.int n, rest)
      | some found => .ok found
      | none => orMalformed (readTomlSpecial text)

/-- A value that is no string, array or table. -/
def readTomlScalar (text : Text) : TomlResult (Value × Text) :=
  if ("true" : Text).isPrefixOf text then .ok (.bool true, text.drop 4)
  else if ("false" : Text).isPrefixOf text then .ok (.bool false, text.drop 5)
  else
    match readTomlDate text with
    | some found => orMalformed found
    | none => readTomlNumber text

/-! ### Places in a mapping -/

/-- Changes the table at a path with `change`, making the tables that are missing. With
`throughLists` a path goes on in the last element of an array of tables. -/
def changeAt (throughLists : Bool) (change : Mapping → Option Mapping) :
    TomlPath → Mapping → Option Mapping
  | [], table => change table
  | name :: path, table =>
      match table.field? name with
      | none => (changeAt throughLists change path []).map fun inner =>
          Mapping.put (.str name) (.map inner) table
      | some (.map inner) => (changeAt throughLists change path inner).map fun inner =>
          Mapping.put (.str name) (.map inner) table
      | some (.list items) =>
          if throughLists then
            match items.getLast? with
            | some (.map inner) => (changeAt throughLists change path inner).map fun inner =>
                Mapping.put (.str name) (.list (items.dropLast ++ [.map inner])) table
            | _ => none
          else none
      | some _ => none

/-- Adds an entry to a table that has none under its name. -/
def addNew (name : Text) (value : Value) (table : Mapping) : Option Mapping :=
  match table.field? name with
  | some _ => none
  | none => some (table.put (.str name) value)

/-- Adds an empty table to the array of tables under a name. -/
def addElement (name : Text) (table : Mapping) : Option Mapping :=
  match table.field? name with
  | none => some (table.put (.str name) (.list [.map []]))
  | some (.list items) => some (table.put (.str name) (.list (items ++ [.map []])))
  | some _ => none

/-! ### Marks -/

/-- What a mark forbids: `declared` a second declaration of a table, `frozen` any
change at or below a place. -/
inductive TomlMark where
  | declared
  | frozen
  deriving DecidableEq, Repr

/-- Marks at their paths. -/
abbrev TomlMarks := List (TomlPath × TomlMark)

/-- Whether a path is marked as declared. -/
def TomlMarks.declared (marks : TomlMarks) (path : TomlPath) : Bool :=
  marks.any fun (p, m) => m == .declared && p == path

/-- Whether a path or a place above it is marked as frozen. -/
def TomlMarks.frozen (marks : TomlMarks) (path : TomlPath) : Bool :=
  marks.any fun (p, m) => m == .frozen && p.isPrefixOf path

/-- The marks outside a path and the places below it. -/
def TomlMarks.outside (marks : TomlMarks) (path : TomlPath) : TomlMarks :=
  marks.filter fun (p, _) => !path.isPrefixOf p

/-- Whether a value is an array or a table. -/
def isContainer : Value → Bool
  | .list _ | .map _ => true
  | _ => false

/-! ### Values -/

mutual

/-- A value inside arrays and inline tables that take `steps` steps. -/
def readTomlValue (steps : Nat) : Nat → Text → TomlResult (Value × Text)
  | 0, _ => .error .malformed
  | fuel + 1, text =>
      match text with
      | '"' :: _ => orMalformed ((readTomlString text).map fun (t, rest) => (.str t, rest))
      | '\'' :: _ => orMalformed ((readTomlString text).map fun (t, rest) => (.str t, rest))
      | '[' :: rest =>
          if mostOpenSteps < steps + 2 then .error (.excess .nesting)
          else do
            let rest ← orMalformed (skipLines? (rest.length + 1) rest)
            let (items, rest) ← readTomlItems (steps + 2) fuel rest
            return (.list items, rest)
      | '{' :: rest =>
          if mostOpenSteps < steps + 3 then .error (.excess .nesting)
          else
            match skipTomlBlanks rest with
            | '}' :: rest => .ok (.map [], rest)
            | rest =>
                (readTomlPairs (steps + 3) fuel [] [] rest).map fun (table, rest) =>
                  (.map table, rest)
      | _ => readTomlScalar text

/-- The items of an array up to its closing bracket. -/
def readTomlItems (steps : Nat) : Nat → Text → TomlResult (List Value × Text)
  | 0, _ => .error .malformed
  | fuel + 1, text =>
      match text with
      | ']' :: rest => .ok ([], rest)
      | _ => do
          let (item, rest) ← readTomlValue steps fuel text
          let rest ← orMalformed (skipLines? (rest.length + 1) rest)
          match rest with
          | ']' :: rest => return ([item], rest)
          | ',' :: rest => do
              let rest ← orMalformed (skipLines? (rest.length + 1) rest)
              let (items, rest) ← readTomlItems steps fuel rest
              return (item :: items, rest)
          | _ => .error .malformed

/-- A key, an equals sign and a value. -/
def readTomlPair (steps : Nat) : Nat → Text → TomlResult ((TomlPath × Value) × Text)
  | 0, _ => .error .malformed
  | fuel + 1, text => do
      let (key, rest) ← orMalformed (readKey (text.length + 1) text)
      match rest with
      | '=' :: rest => do
          let (value, rest) ← readTomlValue steps fuel (skipTomlBlanks rest)
          return ((key, value), rest)
      | _ => .error .malformed

/-- The pairs of an inline table up to its closing brace. -/
def readTomlPairs (steps fuel : Nat) (table : Mapping) (marks : TomlMarks) (text : Text) :
    TomlResult (Mapping × Text) :=
  match fuel with
  | 0 => .error .malformed
  | fuel + 1 => do
      let ((key, value), rest) ← readTomlPair steps fuel text
      if marks.frozen key then .error .malformed
      else do
        let table ← orMalformed
          (changeAt false (addNew (key.getLast?.getD []) value) key.dropLast table)
        match skipTomlBlanks rest with
        | '}' :: rest => return (table, rest)
        | ',' :: rest =>
            let marks := if isContainer value then (key, .frozen) :: marks else marks
            readTomlPairs steps fuel table marks (skipTomlBlanks rest)
        | _ => .error .malformed

end

/-! ### Documents -/

/-- What has been read of a document: the mapping, the marks, the marks that begin to
hold at the next header, and the path of the last header. -/
structure TomlDocument where
  root : Mapping
  marks : TomlMarks
  pending : TomlMarks
  header : TomlPath

/-- The document before its first statement. -/
def TomlDocument.empty : TomlDocument := ⟨[], [], [], []⟩

/-- The paths below `parent` of the tables that a key goes through. -/
def pathsThrough (parent key : TomlPath) : List TomlPath :=
  (List.range (key.length - 1)).map fun i => parent ++ key.take (i + 1)

/-- Adds a pair below the last header. -/
def TomlDocument.addPair (doc : TomlDocument) (key : TomlPath) (value : Value) :
    Option TomlDocument := do
  let through := pathsThrough doc.header key
  let parent := doc.header ++ key.dropLast
  if through.any doc.marks.declared then none
  else if !parent.isEmpty && doc.marks.frozen parent then none
  else do
    let root ← changeAt true (addNew (key.getLast?.getD []) value) parent doc.root
    return { doc with
      root := root
      marks := if isContainer value then (doc.header ++ key, .frozen) :: doc.marks else doc.marks
      pending := through.map (·, .declared) ++ doc.pending }

/-- The marks that were put off begin to hold. -/
def TomlDocument.settle (doc : TomlDocument) : TomlDocument :=
  { doc with marks := doc.pending ++ doc.marks, pending := [] }

/-- Opens a table under its header. -/
def TomlDocument.openTable (doc : TomlDocument) (key : TomlPath) : Option TomlDocument :=
  let doc := doc.settle
  if doc.marks.declared key || doc.marks.frozen key then none
  else do
    let root ← changeAt true some key doc.root
    return { doc with root := root, marks := (key, .declared) :: doc.marks, header := key }

/-- Opens a new element of an array of tables under its header. -/
def TomlDocument.openElement (doc : TomlDocument) (key : TomlPath) : Option TomlDocument :=
  let doc := doc.settle
  if doc.marks.frozen key then none
  else do
    let root ← changeAt true (addElement (key.getLast?.getD [])) key.dropLast doc.root
    return { doc with
      root := root, marks := (key, .declared) :: doc.marks.outside key, header := key }

/-- The header of a table or of an element of an array of tables. -/
def readHeader (doc : TomlDocument) (text : Text) : Option (TomlDocument × Text) :=
  match text with
  | '[' :: '[' :: rest => do
      let (key, rest) ← readKey (rest.length + 1) (skipTomlBlanks rest)
      let doc ← doc.openElement key
      let rest ← readChar ']' rest
      let rest ← readChar ']' rest
      return (doc, rest)
  | _ => do
      let rest := text.drop 1
      let (key, rest) ← readKey (rest.length + 1) (skipTomlBlanks rest)
      let doc ← doc.openTable key
      let rest ← readChar ']' rest
      return (doc, rest)

/-- A statement at the start of a line, which is not blank: a pair, a header or
nothing. -/
def readStatement (doc : TomlDocument) (text : Text) : TomlResult (TomlDocument × Text) :=
  match text with
  | '[' :: _ => orMalformed (readHeader doc text)
  | '#' :: _ => .ok (doc, text)
  | _ => do
      let ((key, value), rest) ← readTomlPair 0 (2 * text.length + 4) text
      let doc ← orMalformed (doc.addPair key value)
      return (doc, rest)

/-- The statements of a document, one to a line. -/
def readStatements (doc : TomlDocument) : Nat → Text → TomlResult TomlDocument
  | 0, _ => .error .malformed
  | fuel + 1, text =>
      match skipTomlBlanks text with
      | [] => .ok doc
      | '\n' :: rest => readStatements doc fuel rest
      | text => do
          let (doc, rest) ← readStatement doc text
          let rest ← orMalformed (skipComment? (skipTomlBlanks rest))
          match rest with
          | [] => return doc
          | '\n' :: rest => readStatements doc fuel rest
          | _ => .error .malformed

/-- The text with each `\r\n` read as `\n`. -/
def joinLineEnds : Text → Text
  | [] => []
  | '\r' :: '\n' :: rest => '\n' :: joinLineEnds rest
  | c :: rest => c :: joinLineEnds rest

/-- Reads a document. -/
def readToml (text : Text) : TomlResult Mapping :=
  let text := joinLineEnds text
  (readStatements .empty (text.length + 1) text).map (·.root)

end HotReload
