import HotReload.Run
/-!
The default export of a module, and what is put in its place.

An export statement is the text `export default `, a component without a semicolon in
it, and a semicolon; a line end just before it belongs to it.

* `exportHere?` finds the statement that begins at the start of a text.
* `exportSpans` reads a text from left to right and takes each statement that it meets.
  It goes on behind a statement that it has taken, so that no two of them overlap.
* `lastExport?` is the last one, with the code around it.
* `splice` puts a rendered text in its place.
-/

namespace HotReload

/-- The words that an export statement begins with. -/
def exportKeyword : Text := "export default "

/-- A line end, if there is one. -/
def lineEndIf (newline : Bool) : Text := if newline then ['\n'] else []

/-- An export statement with the code around it. -/
structure ExportStatement where
  before : Text
  newline : Bool
  component : Text
  after : Text
  deriving DecidableEq, Repr

/-- The line end that belongs to the statement. -/
def ExportStatement.lineEnd (s : ExportStatement) : Text := lineEndIf s.newline

/-- The code with the statement in it. -/
def ExportStatement.code (s : ExportStatement) : Text :=
  s.before ++ s.lineEnd ++ exportKeyword ++ s.component ++ [';'] ++ s.after

/-! ### Reading from left to right -/

/-- Where a statement begins in a text, and what it consists of. -/
structure ExportSpan where
  start : Nat
  newline : Bool
  component : Text
  deriving DecidableEq, Repr

/-- The characters of a statement. -/
def ExportSpan.text (span : ExportSpan) : Text :=
  lineEndIf span.newline ++ exportKeyword ++ span.component ++ [';']

/-- The number of characters of a statement. -/
def ExportSpan.size (span : ExportSpan) : Nat := span.text.length

/-- The place behind a statement. -/
def ExportSpan.stop (span : ExportSpan) : Nat := span.start + span.size

/-- The component of a statement that begins with its keyword at the start of the text. -/
def exportComponent? (text : Text) : Option Text :=
  if exportKeyword.isPrefixOf text then
    let rest := text.drop exportKeyword.length
    let component := rest.takeWhile (· != ';')
    if component.length < rest.length then some component else none
  else none

/-- The statement at the start of a text, which stands at the place `start`. A line end
belongs to the statement that follows it. -/
def exportHere? (start : Nat) : Text → Option ExportSpan
  | '\n' :: rest => (exportComponent? rest).map (⟨start, true, ·⟩)
  | text => (exportComponent? text).map (⟨start, false, ·⟩)

/-- The statements in a text that stands at the place `start`, from left to right. The first
`skip` characters belong to a statement that has been taken already. -/
def exportSpans (start : Nat) : Nat → Text → List ExportSpan
  | _, [] => []
  | skip + 1, _ :: rest => exportSpans (start + 1) skip rest
  | 0, c :: rest =>
      match exportHere? start (c :: rest) with
      | some span => span :: exportSpans (start + 1) (span.size - 1) rest
      | none => exportSpans (start + 1) 0 rest

/-- The code with a statement taken out of it. -/
def ExportSpan.cut (code : Text) (span : ExportSpan) : ExportStatement :=
  ⟨code.take span.start, span.newline, span.component, code.drop span.stop⟩

/-- The last export statement of some code. -/
def lastExport? (code : Text) : Option ExportStatement :=
  (exportSpans 0 0 code).getLast?.map (ExportSpan.cut code)

/-- Puts what `render` makes of the component in the place of the last export statement.
Code without one stays as it is, and `render` is not called. -/
def splice (code : Text) (render : Text → Run Text) : Run Text :=
  match lastExport? code with
  | none => do
      Run.report .noExport
      return code
  | some s => do
      let text ← render s.component
      return s.before ++ text ++ s.after

end HotReload
