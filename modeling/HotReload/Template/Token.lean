import HotReload.Text.Identifier
import HotReload.Text.Quoted
import HotReload.Value
/-!
The tokens of a template.

A template is text with tags in it: `{{ … }}` prints a value, `{% … %}` steers the
rendering, and `{# … #}` is a comment. A minus sign inside the brackets of a tag takes
the blanks on that side of the tag away. Without a sign, the blanks between the start
of a line and a tag that prints nothing go, and so does the line end after such a tag.

* `Piece` is a stretch of text or the tokens of a tag.
* `unescaped` resolves the escapes of a string in a tag. Two escapes of surrogates stay two code
  points, and `CharacterNames` tells which character is escaped by its name.
* `piecesOf` cuts a template into pieces, or fails if a tag or comment is not closed or
  holds a character that belongs to no token.
-/

namespace HotReload

/-- A token inside a tag. -/
inductive Token where
  | name (text : Text)
  | string (text : RawText)
  | int (n : Nat)
  | float (x : Double)
  /-- An operator of one character. -/
  | sign (c : Char)
  /-- An operator of two characters. -/
  | pair (first second : Char)
  deriving DecidableEq, Repr

/-- A piece of a template. -/
inductive Piece where
  | text (text : Text)
  | output (tokens : List Token)
  | block (tokens : List Token)
  deriving DecidableEq, Repr

/-! ### Strings in tags -/

/-- Digits of a base, at most `n` of them. -/
def upToDigits (base : Nat) : Nat → Text → List Nat × Text
  | 0, text => ([], text)
  | _ + 1, [] => ([], [])
  | n + 1, c :: rest =>
      match (hexDigit? c).filter (· < base) with
      | none => ([], c :: rest)
      | some d =>
          let (ds, after) := upToDigits base n rest
          (d :: ds, after)

/-- The number given by exactly `n` hexadecimal digits. -/
def exactHex (n : Nat) (text : Text) : Option (Nat × Text) :=
  let (ds, rest) := upToDigits 16 n text
  if ds.length = n then some (numeralValue 16 ds, rest) else none

/-- The code point of a number, if there is one. -/
def codePoint? (code : Nat) : Option CodePoint :=
  if code < 0x10000 then some (codePointOfUnit code.toUInt16)
  else if code < 0x110000 then some (.char (Char.ofNat code))
  else none

/-- The code point given by exactly `n` hexadecimal digits. -/
def exactCodePoint (n : Nat) (text : Text) : Option (CodePoint × Text) := do
  let (code, rest) ← exactHex n text
  return (← codePoint? code, rest)

/-- The letters that stand for a control character after a backslash. -/
def controlLetters : List (Char × Char) :=
  [('a', '\x07'), ('b', '\x08'), ('f', '\x0c'), ('n', '\n'), ('r', '\r'), ('t', '\t'),
    ('v', '\x0b'), ('\\', '\\'), ('\'', '\''), ('"', '"')]

/-- The characters that have names. -/
def CharacterNames : Type := Text → Option Char

/-- The character whose name stands here in braces, and the text after them. -/
def namedHere? (characters : CharacterNames) : Text → Option (Char × Text)
  | '{' :: inner =>
      match inner.dropWhile (· != '}') with
      | [] => none
      | _ :: after => (characters (inner.takeWhile (· != '}'))).map (·, after)
  | _ => none

variable (characters : CharacterNames)

/-- What an escape stands for after its backslash, and the text behind it. A backslash before
another ASCII character stays with it; before a character beyond ASCII it makes the escape of that
character. -/
def escapeHere? : Text → Option (RawText × Text)
  | [] => none
  | c :: after =>
      if c = '\n' then some ([], after)
      else
        match controlLetters.find? (·.1 == c) with
        | some (_, control) => some ([.char control], after)
        | none =>
            let coded (n : Nat) : Option (RawText × Text) :=
              (exactCodePoint n after).map fun (point, after) => ([point], after)
            if c = 'x' then coded 2
            else if c = 'u' then coded 4
            else if c = 'U' then coded 8
            else if c = 'N' then
              (namedHere? characters after).map fun (named, after) => ([.char named], after)
            else
              match upToDigits 8 3 (c :: after) with
              | ([], _) =>
                  let kept : Text := if c.toNat < 0x80 then ['\\', c] else codePointEscape c.toNat
                  some (kept.raw, after)
              | (ds, after) => some ([.char (Char.ofNat (numeralValue 8 ds))], after)

/-- A string in a tag with its escapes resolved. -/
def unescaped : Nat → Text → Option RawText
  | 0, _ => some []
  | _ + 1, [] => some []
  | fuel + 1, '\\' :: rest => do
      let (points, after) ← escapeHere? characters rest
      let text ← unescaped fuel after
      return points ++ text
  | fuel + 1, c :: rest => (unescaped fuel rest).map (.char c :: ·)

/-- The characters up to the closing quote, escapes still in them. -/
def quotedSpan (quote : Char) : Text → Option (Text × Text)
  | [] => none
  | '\\' :: c :: rest => (quotedSpan quote rest).map fun (text, r) => ('\\' :: c :: text, r)
  | c :: rest =>
      if c = quote then some ([], rest)
      else if c = '\\' then none
      else (quotedSpan quote rest).map fun (text, r) => (c :: text, r)

/-! ### Other tokens -/

/-- The characters that a name is sought in: ASCII letters, digits and the underscore, and
what lies beyond ASCII and is no blank. -/
def isNameChar (c : Char) : Bool :=
  Text.isWordChar c || (0x80 ≤ c.toNat && !Text.isBlank c)

/-- Whether a digit comes first. -/
def startsWithDigit (text : Text) : Bool :=
  match text with
  | c :: _ => (decimalDigit? c).isSome
  | [] => false

/-- Digits with single underscores between them; `inside` tells whether a digit stands
before the text. -/
def spacedDigits (inside : Bool) : Text → List Nat × Text
  | [] => ([], [])
  | c :: rest =>
      match decimalDigit? c with
      | some d =>
          let (ds, after) := spacedDigits true rest
          (d :: ds, after)
      | none =>
          if inside && c == '_' && startsWithDigit rest then spacedDigits false rest
          else ([], c :: rest)

/-- The exponent of a number, if there is one. -/
def tokenPower : Text → Option (Int × Text)
  | c :: rest =>
      if c = 'e' ∨ c = 'E' then
        let (negative, rest) :=
          match rest with
          | '-' :: r => (true, r)
          | '+' :: r => (false, r)
          | r => (false, r)
        match spacedDigits false rest with
        | ([], _) => none
        | (ds, after) =>
            let n : Int := numeralValue 10 ds
            some (if negative then -n else n, after)
      else none
  | [] => none

/-- A number at the start of a text that begins with a digit. An integer other than zero
does not begin with a zero. -/
def numberToken (text : Text) : Token × Text :=
  let (whole, rest) := spacedDigits false text
  let (fraction, afterFraction) :=
    match rest with
    | '.' :: r => spacedDigits false r
    | _ => ([], rest)
  let body := if fraction.isEmpty then rest else afterFraction
  match tokenPower body with
  | some (power, after) => (.float (.ofParts false whole fraction power), after)
  | none =>
      if fraction.isEmpty then
        if whole.head? = some 0 then
          let zeros := whole.takeWhile (· == 0)
          (.int 0, text.drop zeros.length)
        else (.int (numeralValue 10 whole), rest)
      else (.float (.ofParts false whole fraction 0), body)

/-- The operators of two characters. -/
def pairSigns : List (Char × Char) :=
  [('/', '/'), ('*', '*'), ('=', '='), ('!', '='), ('>', '='), ('<', '=')]

/-- The operators of one character. -/
def singleSigns : List Char :=
  ['+', '-', '/', '*', '%', '~', '[', ']', '(', ')', '{', '}', '>', '<', '=', '.', ':', '|',
    ',', ';']

/-- The operator at the start of a text. -/
def signToken : Text → Option (Token × Text)
  | [] => none
  | c :: rest =>
      let single : Option (Token × Text) :=
        if singleSigns.contains c then some (.sign c, rest) else none
      match rest with
      | d :: after => if pairSigns.contains (c, d) then some (.pair c d, after) else single
      | [] => single

/-- The token at the start of a text that is not blank. -/
def tokenHere (text : Text) : Option (Token × Text) :=
  match text with
  | [] => none
  | c :: rest =>
      if c = '\'' ∨ c = '"' then
        match quotedSpan c rest with
        | none => none
        | some (inner, after) =>
            (unescaped characters (inner.length + 1) inner).map fun value => (.string value, after)
      else if (decimalDigit? c).isSome then some (numberToken text)
      else if isNameChar c then
        let name : Text := text.takeWhile isNameChar
        if name.isIdentifier then some (.name name, text.dropWhile isNameChar) else none
      else signToken text

/-! ### Tags -/

/-- The opening bracket that a closing one needs. -/
def openingOf? (c : Char) : Option Char :=
  if c = ')' then some '(' else if c = ']' then some '[' else if c = '}' then some '{' else none

/-- The brackets that are open after a token, or nothing if it closes one that is not. -/
def bracketsAfter (token : Token) (brackets : List Char) : Option (List Char) :=
  match token with
  | .sign c =>
      if c = '(' ∨ c = '[' ∨ c = '{' then some (c :: brackets)
      else
        match openingOf? c with
        | none => some brackets
        | some opening =>
            match brackets with
            | top :: below => if top = opening then some below else none
            | [] => none
  | _ => some brackets

/-- The text without the blanks at its start, and whether a line end was the last of
them. -/
def skipBlanks (text : Text) : Text × Bool :=
  (text.dropWhile Text.isBlank, (text.takeWhile Text.isBlank).getLast? = some '\n')

/-- The text without a line end at its start, and whether there was one. -/
def skipOneLineEnd : Text → Text × Bool
  | '\n' :: rest => (rest, true)
  | text => (text, false)

/-- The text after the end of a printing tag that stands here, and whether a line starts
there. -/
def outputEnd? : Text → Option (Text × Bool)
  | '-' :: '}' :: '}' :: rest => some (skipBlanks rest)
  | '}' :: '}' :: rest => some (rest, false)
  | _ => none

/-- The text after the end of a tag of the kind whose last character but one is `mark`, if
it stands here, and whether a line starts there. -/
def quietEnd? (mark : Char) : Text → Option (Text × Bool)
  | a :: b :: c :: rest =>
      if a = '+' ∧ b = mark ∧ c = '}' then some (rest, false)
      else if a = '-' ∧ b = mark ∧ c = '}' then some (skipBlanks rest)
      else if a = mark ∧ b = '}' then some (skipOneLineEnd (c :: rest))
      else none
  | [a, b] => if a = mark ∧ b = '}' then some ([], false) else none
  | _ => none

/-- The tokens of a tag up to its end, which does not count inside brackets. -/
def tagTokens (end? : Text → Option (Text × Bool)) (brackets : List Char) :
    Nat → Text → Option (List Token × Text × Bool)
  | 0, _ => none
  | _ + 1, [] => none
  | fuel + 1, c :: rest =>
      match if brackets.isEmpty then end? (c :: rest) else none with
      | some (after, lineStart) => some ([], after, lineStart)
      | none =>
          if Text.isBlank c then tagTokens end? brackets fuel rest
          else do
            let (token, after) ← tokenHere characters (c :: rest)
            let brackets ← bracketsAfter token brackets
            let (tokens, after, lineStart) ← tagTokens end? brackets fuel after
            return (token :: tokens, after, lineStart)

/-- The text after a comment, and whether a line starts there. -/
def commentEnd : Text → Option (Text × Bool)
  | [] => none
  | c :: rest =>
      match quietEnd? '#' (c :: rest) with
      | some found => some found
      | none => commentEnd rest

/-! ### Pieces -/

/-- The kinds of tag. -/
inductive TagKind where
  | output
  | block
  | comment
  deriving DecidableEq, Repr

/-- The kind of the tag that opens here. -/
def tagKind? : Text → Option TagKind
  | '{' :: '{' :: _ => some .output
  | '{' :: '%' :: _ => some .block
  | '{' :: '#' :: _ => some .comment
  | _ => none

/-- The text before the first tag, and the tag's kind with the text after its opening
brackets. -/
def firstTag : Text → Text × Option (TagKind × Text)
  | [] => ([], none)
  | c :: rest =>
      match tagKind? (c :: rest) with
      | some kind => ([], some (kind, rest.drop 1))
      | none =>
          let (before, tag) := firstTag rest
          (c :: before, tag)

/-- The text before a tag that prints nothing, without the blanks between the start of
the line and the tag if there is nothing else between them. -/
def withoutIndent (lineStart : Bool) (text : Text) : Text :=
  let last := (text.reverse.takeWhile (· != '\n')).reverse
  let above := text.take (text.length - last.length)
  if (lineStart || !above.isEmpty) && last.all Text.isBlank then above else text

/-- The text before a tag as its sign leaves it. -/
def textBefore (kind : TagKind) (sign : Option Char) (lineStart : Bool) (text : Text) : Text :=
  if sign = some '-' then Text.stripRight text
  else if sign = some '+' ∨ kind = .output then text
  else withoutIndent lineStart text

/-- The sign at the start of a tag. -/
def tagSign : Text → Option Char × Text
  | '-' :: rest => (some '-', rest)
  | '+' :: rest => (some '+', rest)
  | rest => (none, rest)

/-- A stretch of text, if there is any. -/
def textPiece (text : Text) : List Piece := if text.isEmpty then [] else [.text text]

/-- Cuts a template into pieces; `lineStart` tells whether it starts a line. -/
def piecesFrom (lineStart : Bool) : Nat → Text → Option (List Piece)
  | 0, _ => none
  | fuel + 1, template =>
      match firstTag template with
      | (text, none) => some (textPiece text)
      | (text, some (kind, inner)) => do
          let (sign, inner) := tagSign inner
          let before := textPiece (textBefore kind sign lineStart text)
          match kind with
          | .comment => do
              let (after, lineStart) ← commentEnd inner
              let pieces ← piecesFrom lineStart fuel after
              return before ++ pieces
          | .output => do
              let (tokens, after, lineStart) ←
                tagTokens characters outputEnd? [] (inner.length + 1) inner
              let pieces ← piecesFrom lineStart fuel after
              return before ++ Piece.output tokens :: pieces
          | .block => do
              let (tokens, after, lineStart) ←
                tagTokens characters (quietEnd? '%') [] (inner.length + 1) inner
              let pieces ← piecesFrom lineStart fuel after
              return before ++ Piece.block tokens :: pieces

/-- The pieces of a template. -/
def piecesOf (template : Text) : Option (List Piece) :=
  piecesFrom characters true (template.length + 1) template

end HotReload
