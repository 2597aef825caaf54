import HotReload.Command.Markup
import HotReload.Text.Wrap
/-!
Text on a terminal.

* `consoleLines` is a message as it is shown: without the controls that move the cursor,
  with blanks in place of tabs, and broken into lines that fit. The paths and names in a message
  hold no markup of their own, and no emoji codes.
* `consoleTable` lays rows of two cells out in columns, `Markup.table` reads their markup before.
* `withoutStyles` takes the sequences away that would set colours.
-/

namespace HotReload

/-- The places in a line of the terminal. -/
def consoleWidth : Nat := 4000

/-- The controls that a terminal does not show: bell, backspace, vertical tab, form feed and
carriage return. -/
def isCursorControl (c : Char) : Bool :=
  c == '\x07' || c == '\x08' || c == '\x0b' || c == '\x0c' || c == '\r'

/-- The text without those controls. -/
def withoutControls (text : Text) : Text := text.filter fun c => !isCursorControl c

/-! ### Styles -/

/-- A message as a terminal shows it. What looks like a tag has been escaped and is text like any
other, but a backslash right before a bracket that begins no tag is taken for an escape and is
not shown. -/
def shown : Text → Text
  | [] => []
  | c :: rest =>
      if c = '\\' && rest.head? = some '[' && (tagBody? rest).isNone then shown rest
      else c :: shown rest

/-- Whether a letter ends a sequence that sets a style, after digits and separators. -/
def afterStyle? : Text → Option Text
  | [] => none
  | c :: rest =>
      if c.isAlpha then some rest
      else if c.isDigit || c == ';' || c == '?' then afterStyle? rest
      else none

/-- A text without sequences that set a style: escape, bracket, digits and a letter. -/
def withoutStylesFrom (skip : Nat) : Text → Text
  | [] => []
  | c :: rest =>
      match skip with
      | skip + 1 => withoutStylesFrom skip rest
      | 0 =>
          match c, rest with
          | '\x1b', '[' :: after =>
              match afterStyle? after with
              | some remaining => withoutStylesFrom (rest.length - remaining.length) rest
              | none => c :: withoutStylesFrom 0 rest
          | _, _ => c :: withoutStylesFrom 0 rest

/-- A text without sequences that set a style. -/
def withoutStyles (text : Text) : Text := withoutStylesFrom 0 text

/-! ### Messages -/

/-- The lines of a message. A word that is too long for a line is cut. -/
def messageLines (text : Text) : List Text :=
  (Text.split '\n' (withoutControls (shown text))).flatMap fun line =>
    (line.withoutTabs.wrapped consoleWidth .cut).map (Text.cropped consoleWidth)

/-- A message as it is shown. -/
def consoleLines (text : Text) : Text :=
  (messageLines text).flatMap fun line => line ++ ['\n']

/-! ### Tables -/

/-- The blanks at either side of a cell. -/
def cellGap : Nat := 2

/-- The characters that end a line where a cell is measured. -/
def isLineBreak (c : Char) : Bool :=
  let n := c.toNat
  (0x0A ≤ n && n ≤ 0x0D) || (0x1C ≤ n && n ≤ 0x1E) || n == 0x85 || n == 0x2028 || n == 0x2029

/-- The places that the widest line of a cell takes. -/
def cellWidth (cell : Text) : Nat :=
  let lines := Text.split '\n' (cell.map fun c => if isLineBreak c then '\n' else c)
  (lines.map Text.width).foldl max 0

/-- The places that a column needs. -/
def columnWidth (cells : List Text) : Nat := (cells.map cellWidth).foldl max 0 + 2 * cellGap

/-- Half of a number; a half goes to the even neighbour. -/
def evenHalf (n : Nat) : Nat := if n % 4 = 3 then n / 2 + 1 else n / 2

/-- The places of two columns that together may take `room`. The wider one gives way to the
other, and what is still too much is taken from both. -/
def sharedWidths (room left right : Nat) : Nat × Nat :=
  let excess := left + right - room
  if excess = 0 then (left, right)
  else if right + excess ≤ left then (left - excess, right)
  else if left + excess ≤ right then (left, right - excess)
  else
    let common := min left right
    let rest := 2 * common - room
    (common - evenHalf rest, common - (rest - evenHalf rest))

/-- The lines of a cell, each as wide as its column. -/
def cellLines (places : Nat) (cell : Text) : List Text :=
  (Text.split '\n' cell).flatMap fun line =>
    (line.withoutTabs.wrapped places .keep).map (Text.fitted places)

/-- A line of a row, with the gaps at both sides of its cells. -/
def tableLine (left right : Text) : Text :=
  let gap := List.replicate cellGap ' '
  gap ++ left ++ gap ++ (gap ++ right ++ gap) ++ ['\n']

/-- The lines of a row, as many as its higher cell has. -/
def tableRow (left right : Nat) (a b : Text) : Text :=
  let leftLines := cellLines left a
  let rightLines := cellLines right b
  (List.range (max leftLines.length rightLines.length)).flatMap fun n =>
    tableLine (leftLines.getD n (List.replicate left ' '))
      (rightLines.getD n (List.replicate right ' '))

/-- Rows of two cells, each column as wide as its widest cell if there is room. -/
def consoleTable (rows : List (Text × Text)) : Text :=
  let cells := rows.map fun (a, b) => (withoutControls a, withoutControls b)
  let (left, right) :=
    sharedWidths consoleWidth (columnWidth (cells.map (·.1))) (columnWidth (cells.map (·.2)))
  cells.flatMap fun (a, b) => tableRow (left - 2 * cellGap) (right - 2 * cellGap) a b

/-- What is shown in the cells of rows. -/
def Markup.cells (markup : Markup) :
    List (Text × Text) → Except Failure (List (Text × Text))
  | [] => .ok []
  | (a, b) :: rows => do
      let left ← markup.cell a
      let right ← markup.cell b
      let rest ← markup.cells rows
      return (left, right) :: rest

/-- Rows of two cells with markup in them, as a table. -/
def Markup.table (markup : Markup) (rows : List (Text × Text)) : Except Failure Text :=
  (markup.cells rows).map consoleTable

end HotReload
