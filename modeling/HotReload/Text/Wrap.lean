import HotReload.Text.Width
/-!
Lines that fit into a number of places.

* `Text.wrapped` breaks a line between words, and a word that is too long for any line as
  `LongWords` says.
* `Text.cropped` cuts a text off, `Text.padded` fills it up with blanks, and
  `Text.fitted` does what is needed of the two.
* `Text.withoutTabs` puts blanks in place of tabs.
-/

namespace HotReload

/-- What becomes of a word that is wider than a line: it is cut into pieces, or stands on a
line of its own. -/
inductive LongWords where
  | cut
  | keep
  deriving DecidableEq, Repr

namespace Text

/-! ### Cutting and filling -/

/-- The clusters that fit, as a text; the half of one that does not is a blank. -/
def cropClusters (room : Nat) : List Cluster → Text
  | [] => []
  | cluster :: clusters =>
      if cluster.width ≤ room then
        cluster.text ++ cropClusters (room - cluster.width) clusters
      else if room = 0 then [] else [' ']

/-- The start of a text that takes at most `places` places. -/
def cropped (places : Nat) (text : Text) : Text :=
  if text.width ≤ places then text
  else if places = 0 then []
  else cropClusters places text.clusters

/-- The text with blanks after it up to `places` places. -/
def padded (places : Nat) (text : Text) : Text := text.padTo places text.width

/-- The text with an ellipsis in place of what does not fit. -/
def elided (places : Nat) (text : Text) : Text :=
  if text.width ≤ places then text else text.cropped (places - 1) ++ ['…']

/-- The text in exactly `places` places. A joiner at its end hides the first blank after it,
so that the text is filled up twice. -/
def fitted (places : Nat) (text : Text) : Text :=
  ((text.elided places).padded places).padded places

/-- The clusters put into pieces of at most `places` places; `piece` is the last piece so
far, which takes `size` of them. -/
def chopClusters (places : Nat) (piece : Text) (size : Nat) : List Cluster → List Text
  | [] => if size = 0 then [] else [piece]
  | cluster :: clusters =>
      if size + cluster.width ≤ places then
        chopClusters places (piece ++ cluster.text) (size + cluster.width) clusters
      else piece :: chopClusters places cluster.text cluster.width clusters

/-- The pieces of a text, each of at most `places` places. -/
def chopped (places : Nat) (text : Text) : List Text :=
  chopClusters places [] 0 text.clusters

/-! ### Words -/

/-- Whether a text begins with a blank. -/
def startsBlank : Text → Bool
  | c :: _ => isBlank c
  | [] => false

/-- The text cut wherever a blank is followed by another character. -/
def cutAfterBlanks : Text → List Text
  | [] => []
  | c :: rest =>
      match cutAfterBlanks rest with
      | [] => [[c]]
      | piece :: pieces =>
          if isBlank c && !startsBlank piece then [c] :: piece :: pieces
          else (c :: piece) :: pieces

/-- The words of a text with the blanks after them; those at the start of the text belong to
the first word. A text of blanks has no words. -/
def spacedWords (text : Text) : List Text :=
  match cutAfterBlanks text with
  | [] => []
  | [piece] => if startsBlank piece then [] else [piece]
  | first :: second :: pieces =>
      if startsBlank first then (first ++ second) :: pieces else first :: second :: pieces

/-! ### Lines -/

/-- Lines under construction: those that are finished, the last of which comes first, the
current line, and the places taken in it. -/
structure LineBreaker where
  finished : List Text
  line : Text
  taken : Nat

namespace LineBreaker

/-- No lines at all. -/
def start : LineBreaker := ⟨[], [], 0⟩

/-- Puts text on the current line. -/
def add (b : LineBreaker) (text : Text) : LineBreaker :=
  ⟨b.finished, b.line ++ text, b.taken + text.width⟩

/-- Begins a new line, unless the current one is empty. -/
def newLine (b : LineBreaker) : LineBreaker :=
  if b.line.isEmpty then ⟨b.finished, [], 0⟩ else ⟨b.line :: b.finished, [], 0⟩

/-- Puts a word where it fits: on the current line, or else on a new one. -/
def addWord (places : Nat) (longWords : LongWords) (b : LineBreaker) (word : Text) :
    LineBreaker :=
  if b.taken + word.stripRight.width ≤ places then b.add word
  else if word.stripRight.width ≤ places || longWords = .keep then b.newLine.add word
  else (word.chopped places).foldl (fun b piece => b.newLine.add piece) b

/-- All lines. -/
def lines (b : LineBreaker) : List Text := (b.line :: b.finished).reverse

end LineBreaker

/-- A line without the blanks at its end that stand beyond as many characters as it has
places. -/
def trimmedEnd (places : Nat) (line : Text) : Text :=
  line.take (line.length - min (line.length - line.stripRight.length) (line.length - places))

/-- The lines into which one line is broken. -/
def wrapped (places : Nat) (longWords : LongWords) (line : Text) : List Text :=
  match spacedWords line with
  | [] => [line.trimmedEnd places]
  | words =>
      ((words.foldl (LineBreaker.addWord places longWords) .start).lines).map
        (trimmedEnd places)

/-! ### Tabs -/

/-- The distance of the places at which a tab ends. -/
def tabWidth : Nat := 8

/-- The parts of a line between its tabs, put together with blanks; `column` is the place
where they begin. -/
def joinTabbed (column : Nat) : List Text → Text
  | [] => []
  | [part] => part
  | part :: next :: parts =>
      let spaced := part ++ [' ']
      let column := column + spaced.width
      let gap := (tabWidth - column % tabWidth) % tabWidth
      spaced ++ List.replicate gap ' ' ++ joinTabbed (column + gap) (next :: parts)

/-- A line with blanks in place of tabs. -/
def withoutTabs (line : Text) : Text := joinTabbed 0 (split '\t' line)

end Text

end HotReload
