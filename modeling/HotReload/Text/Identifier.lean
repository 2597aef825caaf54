import HotReload.Text.Identifier.Tables
import HotReload.Text.Printable
/-!
Identifiers: a letter or an underscore, and then letters, digits, underscores and combining
marks, of any script.
-/

namespace HotReload

/-- The tables of characters that an identifier may begin with. -/
def identifierStarts : List (List (Nat × Nat)) :=
  [identifierStartA, identifierStartB, identifierStartC, identifierStartD, identifierStartE,
    identifierStartF, identifierStartG, identifierStartH]

/-- The tables of characters that may stand inside an identifier only. -/
def identifierMores : List (List (Nat × Nat)) :=
  [identifierMoreA, identifierMoreB, identifierMoreC, identifierMoreD, identifierMoreE]

/-- Whether an identifier may begin with a character. -/
def startsIdentifier (c : Char) : Bool :=
  if c.toNat < 0x80 then c.isAlpha || c == '_'
  else identifierStarts.any (inRanges · c.toNat)

/-- Whether a character may stand inside an identifier. -/
def continuesIdentifier (c : Char) : Bool :=
  startsIdentifier c ||
    if c.toNat < 0x80 then c.isDigit else identifierMores.any (inRanges · c.toNat)

/-- Whether a text is an identifier. -/
def Text.isIdentifier : Text → Bool
  | [] => false
  | c :: rest => startsIdentifier c && rest.all continuesIdentifier

end HotReload
