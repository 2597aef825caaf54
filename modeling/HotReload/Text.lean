/-!
Texts are lists of characters, so that every function on them is a recursion on a list.

* `Text.split` cuts a text at a separator and `Text.join` puts the pieces together.
* `Text.cut?` finds the first occurrence of a pattern, `Text.replace` replaces
  every occurrence from left to right.
* `Text.strip` removes the blanks at both ends, `Text.isBlank` saying which
  characters are blank.
* `Text.flatten` joins the lines of a text that hold more than blanks by single
  spaces.
-/

namespace HotReload

/-- A text is a list of Unicode scalar values. -/
abbrev Text := List Char

/-- A string literal stands for the list of its characters. -/
instance textOfString : Coe String Text := ⟨String.toList⟩

namespace Text

/-! ### Pieces -/

/-- The pieces between the occurrences of `sep`; there is always at least one. -/
def split (sep : Char) : Text → List Text
  | [] => [[]]
  | c :: rest =>
      if c = sep then [] :: split sep rest
      else
        match split sep rest with
        | [] => [[c]]
        | piece :: pieces => (c :: piece) :: pieces

/-- The pieces one after the other, with `sep` between any two. -/
def join (sep : Text) : List Text → Text
  | [] => []
  | [piece] => piece
  | piece :: next :: pieces => piece ++ sep ++ join sep (next :: pieces)

theorem split_ne_nil (sep : Char) (text : Text) : split sep text ≠ [] := by
  induction text with
  | nil => simp [split]
  | cons c rest ih =>
    by_cases h : c = sep
    · simp [split, h]
    · rw [split, if_neg h]
      split <;> simp

theorem join_cons (sep piece : Text) {pieces : List Text} (h : pieces ≠ []) :
    join sep (piece :: pieces) = piece ++ sep ++ join sep pieces := by
  cases pieces with
  | nil => exact absurd rfl h
  | cons next pieces => rfl

/-- The pieces of a text, joined again, are the text. -/
theorem join_split (sep : Char) (text : Text) : join [sep] (split sep text) = text := by
  induction text with
  | nil => rfl
  | cons c rest ih =>
    by_cases h : c = sep
    · rw [split, if_pos h, join_cons _ _ (split_ne_nil sep rest), ih, h]
      rfl
    · rw [split, if_neg h]
      cases hs : split sep rest with
      | nil => exact absurd hs (split_ne_nil sep rest)
      | cons piece pieces =>
        rw [hs] at ih
        cases pieces with
        | nil => simpa [join] using ih
        | cons next pieces => simpa [join] using ih

/-- What stands before and after the first occurrence of `pattern`. -/
def cut? (pattern : Text) : Text → Option (Text × Text)
  | [] => if pattern.isEmpty then some ([], []) else none
  | c :: rest =>
      if pattern.isPrefixOf (c :: rest) then some ([], (c :: rest).drop pattern.length)
      else (cut? pattern rest).map fun (before, after) => (c :: before, after)

/-- Whether `pattern` occurs in the text. -/
def includes (pattern text : Text) : Bool := (cut? pattern text).isSome

/-- Copies a text, putting `replacement` in place of `pattern` wherever it occurs, from left to
right and without overlaps; the first `skip` characters belong to an occurrence
that has been replaced already. -/
def replaceFrom (pattern replacement : Text) : Nat → Text → Text
  | _, [] => []
  | skip + 1, _ :: rest => replaceFrom pattern replacement skip rest
  | 0, c :: rest =>
      if pattern.isPrefixOf (c :: rest) then
        replacement ++ replaceFrom pattern replacement (pattern.length - 1) rest
      else c :: replaceFrom pattern replacement 0 rest

/-- Replaces every occurrence of the nonempty `pattern`, from left to right. -/
def replace (pattern replacement text : Text) : Text := replaceFrom pattern replacement 0 text

/-! ### Blanks -/

/-- The characters that separate words and lines: the ASCII controls and separators
from tab to carriage return and from the file separator to the space, and the
Unicode space and line separators. -/
def isBlank (c : Char) : Bool :=
  let n := c.toNat
  (0x09 ≤ n && n ≤ 0x0D) || (0x1C ≤ n && n ≤ 0x20) || n == 0x85 || n == 0xA0 ||
    n == 0x1680 || (0x2000 ≤ n && n ≤ 0x200A) || n == 0x2028 || n == 0x2029 ||
    n == 0x202F || n == 0x205F || n == 0x3000

/-- The text without the blanks at its end. -/
def stripRight (text : Text) : Text := (text.reverse.dropWhile isBlank).reverse

/-- The text without the blanks at its two ends. -/
def strip (text : Text) : Text := stripRight (text.dropWhile isBlank)

/-! ### Lines -/

/-- The lines of a text that hold more than blanks, each without the blanks at its
ends, joined by single spaces. Only `\n` ends a line. -/
def flatten (text : Text) : Text :=
  join [' '] (((split '\n' text).map strip).filter fun line => !line.isEmpty)

/-- The text with each of `\r\n` and `\r` read as `\n`. -/
def universalLines : Text → Text
  | [] => []
  | '\r' :: '\n' :: rest => '\n' :: universalLines rest
  | '\r' :: rest => '\n' :: universalLines rest
  | c :: rest => c :: universalLines rest

/-- The text with every backslash turned into a slash. -/
def withSlashes (text : Text) : Text := text.map fun c => if c = '\\' then '/' else c

/-! ### Words -/

/-- The ASCII letters, digits and the underscore. -/
def isWordChar (c : Char) : Bool := c.isAlphanum || c == '_'

/-- The ASCII blanks. -/
def isAsciiBlank (c : Char) : Bool :=
  c == ' ' || (0x09 ≤ c.toNat && c.toNat ≤ 0x0D)

/-- The order by code points, first difference first. -/
def precedes : Text → Text → Bool
  | [], _ => true
  | _ :: _, [] => false
  | a :: as, b :: bs => a.toNat < b.toNat || (a.toNat == b.toNat && precedes as bs)

/-- The text with blanks put after it up to `width` places, `size` of which it fills. -/
def padTo (width size : Nat) (text : Text) : Text := text ++ List.replicate (width - size) ' '

end Text

end HotReload
