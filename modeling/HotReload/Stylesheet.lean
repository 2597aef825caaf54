import HotReload.Run
import HotReload.Stylesheet.Hash
/-!
The stylesheet of a compiled component.

A component with styles has a function that adds its stylesheet to the document. The
function begins with its header at the start of a line and ends with the brace that
opens a later line; it assigns the id of the stylesheet.

* `cutStylesheet` cuts the code around that function.
* `styleId?` finds the id that the function assigns.
* `removeWord` takes a word out of a text wherever it stands between boundaries.
* `readStylesheet` gives the id, and a hash of the code without the function and
  without the part of the id that depends on the styles.
-/

namespace HotReload

/-- The first line of the function that adds the stylesheet. -/
def styleHeader : Text := "function add_css() \x7b"

/-- Cuts a text before the first line that begins with `pattern`; `atStart` tells whether
the text itself starts a line. -/
def cutAtLine? (pattern : Text) : Bool → Text → Option (Text × Text)
  | _, [] => none
  | atStart, c :: rest =>
      if atStart && pattern.isPrefixOf (c :: rest) then some ([], c :: rest)
      else (cutAtLine? pattern (c == '\n') rest).map fun (before, after) => (c :: before, after)

/-- The code before the function, the function, and the code after it. -/
structure StylesheetCut where
  before : Text
  body : Text
  after : Text
  deriving DecidableEq, Repr

/-- Cuts the code around the function that adds the stylesheet. The first line with the
header decides. -/
def cutStylesheet (code : Text) : Option StylesheetCut :=
  match cutAtLine? styleHeader true code with
  | none => none
  | some (before, rest) =>
      match cutAtLine? ['}'] false (rest.drop styleHeader.length) with
      | none => none
      | some (inner, closing) =>
          some ⟨before, styleHeader ++ inner ++ ['}'], closing.drop 1⟩

/-- The code without the function. -/
def StylesheetCut.remainder (cut : StylesheetCut) : Text := cut.before ++ cut.after

/-! ### The id -/

/-- The id assigned by a statement at the start of the text: the name of the property,
an equals sign and a quoted text, with ASCII blanks around the sign. -/
def styleIdHere? (text : Text) : Option Text :=
  let property : Text := "style.id"
  if property.isPrefixOf text then
    match (text.drop property.length).dropWhile Text.isAsciiBlank with
    | '=' :: rest =>
        match rest.dropWhile Text.isAsciiBlank with
        | quote :: rest =>
            if quote = '\'' ∨ quote = '"' then
              let isQuote (c : Char) : Bool := c == '\'' || c == '"'
              let id := rest.takeWhile fun c => !isQuote c
              if (rest.drop id.length).head? = some quote then some id else none
            else none
        | [] => none
    | _ => none
  else none

/-- The first id that is assigned in a text; `afterWord` tells whether a word character
stands before the text, in which case no name begins with it. -/
def findStyleId? : Bool → Text → Option Text
  | _, [] => none
  | afterWord, c :: rest =>
      match if afterWord then none else styleIdHere? (c :: rest) with
      | some id => some id
      | none => findStyleId? (Text.isWordChar c) rest

/-- The first id that is assigned in a text. -/
def styleId? (body : Text) : Option Text := findStyleId? false body

/-! ### The hash -/

/-- Whether the first character of a text is a word character. -/
def startsWithWord (text : Text) : Bool :=
  match text with
  | c :: _ => Text.isWordChar c
  | [] => false

/-- Whether the last character of a text is a word character. -/
def endsWithWord (text : Text) : Bool :=
  match text.getLast? with
  | some c => Text.isWordChar c
  | none => false

/-- Whether `word` stands at the start of the text between boundaries. A boundary is a
place with a word character on exactly one side. -/
def standsHere (word : Text) (afterWord : Bool) (text : Text) : Bool :=
  word.isPrefixOf text && afterWord != startsWithWord word &&
    endsWithWord word != startsWithWord (text.drop word.length)

/-- Copies a text without the places where `word` stands between boundaries. The first
`skip` characters belong to such a place; `afterWord` tells whether a word character
stands before the text. -/
def removeWordFrom (word : Text) : Bool → Nat → Text → Text
  | _, _, [] => []
  | _, skip + 1, c :: rest => removeWordFrom word (Text.isWordChar c) skip rest
  | afterWord, 0, c :: rest =>
      if standsHere word afterWord (c :: rest) then
        removeWordFrom word (Text.isWordChar c) (word.length - 1) rest
      else c :: removeWordFrom word (Text.isWordChar c) 0 rest

/-- Removes the nonempty `word` wherever it stands between boundaries, from left to
right. -/
def removeWord (word text : Text) : Text := removeWordFrom word false 0 text

/-- The part of an id that depends on the styles: what stands between its first dash and
the next. -/
def styleHash (id : Text) : Text :=
  match Text.split '-' id with
  | _ :: hash :: _ => hash
  | _ => []

/-- The hash of the code without the stylesheet and without the hash of the styles. -/
def nonCssHash (remainder id : Text) : Text :=
  let hash := styleHash id
  hashText (if hash.isEmpty then remainder else removeWord hash remainder)

/-- What is known of the stylesheet: its id, the hash of everything else, and whether
there is a function that adds it. -/
structure Stylesheet where
  cssId : Option Text
  nonCssHash : Option Text
  hasAddCss : Bool
  deriving DecidableEq, Repr

/-- A component without a stylesheet. -/
def Stylesheet.none : Stylesheet := ⟨.none, .none, false⟩

/-- What is known of the stylesheet of some code. The hash is there if it is asked for
and the id is not empty. -/
def Stylesheet.ofCode (code : Text) (withHash : Bool) : Stylesheet :=
  match cutStylesheet code with
  | .none => .none
  | .some cut =>
      match styleId? cut.body with
      | .none => ⟨.none, .none, true⟩
      | .some id =>
          let hash := if withHash && !id.isEmpty then some (HotReload.nonCssHash cut.remainder id)
            else .none
          ⟨some id, hash, true⟩

/-- Reads the stylesheet and reports a function that assigns no id. -/
def readStylesheet (code : Text) (withHash : Bool) : Run Stylesheet := do
  let sheet := Stylesheet.ofCode code withHash
  if sheet.hasAddCss && sheet.cssId.isNone then Run.report .noStyleId
  return sheet

theorem result_readStylesheet (code : Text) (withHash : Bool) :
    (readStylesheet code withHash).result = .ok (Stylesheet.ofCode code withHash) := by
  rw [readStylesheet]
  split <;> rfl

end HotReload
