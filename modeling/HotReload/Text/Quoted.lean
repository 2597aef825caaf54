import HotReload.Text.Numeral
import HotReload.Text.Printable
import HotReload.Text.Units
/-!
Quoted texts, as they stand in messages and in the text of a list.

* `Text.quoted` puts a text between single quotes, or between double quotes if it
  holds a single quote and no double quote.
* A backslash, the quote in use and every character that is not printable are
  escaped: `\t`, `\n` and `\r` by their letter, the others by two, four or eight
  hexadecimal digits.
* `RawText.quoted` does so with a row of code points, and escapes every surrogate.
-/

namespace HotReload

/-- The escape of a character by its code point. -/
def codePointEscape (n : Nat) : Text :=
  if n < 0x100 then "\\x" ++ padded 16 2 n
  else if n < 0x10000 then "\\u" ++ padded 16 4 n
  else "\\U" ++ padded 16 8 n

/-- A character between the quotes. -/
def quotedChar (quote c : Char) : Text :=
  if c = quote ∨ c = '\\' then ['\\', c]
  else if c = '\t' then ['\\', 't']
  else if c = '\n' then ['\\', 'n']
  else if c = '\r' then ['\\', 'r']
  else if isPrintable c then [c]
  else codePointEscape c.toNat

/-- The quote that a text with these characters is put in. -/
def quoteFor (text : Text) : Char :=
  if text.contains '\'' && !text.contains '"' then '"' else '\''

/-- The text between quotes. -/
def Text.quoted (text : Text) : Text :=
  let quote := quoteFor text
  quote :: (text.flatMap (quotedChar quote) ++ [quote])

/-- A code point between the quotes. -/
def CodePoint.quoted (quote : Char) : CodePoint → Text
  | .char c => quotedChar quote c
  | .half surrogate => codePointEscape surrogate.unit.toNat

/-- The row of code points between quotes. -/
def RawText.quoted (raw : RawText) : Text :=
  let quote := quoteFor (raw.filterMap CodePoint.char?)
  quote :: (raw.flatMap (CodePoint.quoted quote) ++ [quote])

/-- A row of bytes between quotes after a `b`: the printable ASCII characters stand
for themselves. -/
def quotedBytes (bytes : List UInt8) : Text :=
  let chars := bytes.map fun b => Char.ofNat b.toNat
  let quote := quoteFor chars
  let quotedByte (c : Char) : Text :=
    if 0x7F ≤ c.toNat then codePointEscape c.toNat else quotedChar quote c
  'b' :: quote :: (chars.flatMap quotedByte ++ [quote])

end HotReload
