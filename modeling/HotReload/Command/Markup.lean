import HotReload.Failure
/-!
Markup in the cells of a table.

A tag is a bracket, a character that a tag begins with, and what stands between it and the next
bracket, which closes the tag. It sets a style from its place on, or with a slash ends one.
Backslashes right before a tag escape one another and, if one is left over, the tag.

* `Markup` holds what is known of styles, of the parameters of tags and of emoji.
* `markupPieces` cuts a text at its tags.
* `Markup.render?` goes through the pieces with the tags that are open and gives what is shown of
  them. It fails where a tag ends a style that is not open, or cannot be used.
* `Markup.cell` is the text that is shown in a cell.
* `escapeTags` escapes all tags of a text.
-/

namespace HotReload

/-! ### Tags -/

/-- The characters that a tag begins with, after its bracket. -/
def startsTag (c : Char) : Bool :=
  ('a' ≤ c && c ≤ 'z') || c == '#' || c == '/' || c == '@'

/-- What stands between the brackets of the tag that a text begins with. -/
def tagBody? : Text → Option Text
  | '[' :: c :: rest =>
      let inner := rest.takeWhile fun c => c != '[' && c != ']'
      if startsTag c && (rest.drop inner.length).head? == some ']' then some (c :: inner) else none
  | _ => none

/-- A tag with backslashes before it. -/
structure TagPlace where
  slashes : Nat
  body : Text
  deriving DecidableEq, Repr

/-- The tag that a text begins with, perhaps after backslashes. -/
def tagHere? (text : Text) : Option TagPlace :=
  let slashes := (text.takeWhile (· == '\\')).length
  (tagBody? (text.drop slashes)).map (⟨slashes, ·⟩)

/-- The characters of the tag, its brackets and the backslashes. -/
def TagPlace.size (place : TagPlace) : Nat := place.slashes + place.body.length + 2

/-- A tag: a name, and parameters if there is an equals sign in it. -/
structure MarkupTag where
  name : Text
  parameters : Option Text
  deriving DecidableEq, Repr

/-- The tag that is written so. -/
def MarkupTag.ofBody (body : Text) : MarkupTag :=
  match Text.cut? ['='] body with
  | some (name, parameters) => ⟨name, some parameters⟩
  | none => ⟨body, none⟩

/-- The words for the style that a tag sets. -/
def MarkupTag.style (tag : MarkupTag) : Text :=
  match tag.parameters with
  | some parameters => tag.name ++ ' ' :: parameters
  | none => tag.name

/-- A piece of a text with markup. -/
inductive MarkupPiece where
  /-- What stands between tags. -/
  | plain (text : Text)
  /-- Backslashes that were escaped. -/
  | slashes (count : Nat)
  /-- A tag that was escaped, with its brackets. -/
  | escaped (text : Text)
  | tag (tag : MarkupTag)
  deriving DecidableEq, Repr

/-- What becomes of a tag and of the backslashes before it. -/
def TagPlace.pieces (place : TagPlace) : List MarkupPiece :=
  (if place.slashes < 2 then [] else [.slashes (place.slashes / 2)]) ++
    (if place.slashes % 2 = 1 then [.escaped ('[' :: (place.body ++ [']']))]
    else [.tag (.ofBody place.body)])

/-- A character before pieces. -/
def addPlain (c : Char) : List MarkupPiece → List MarkupPiece
  | .plain text :: pieces => .plain (c :: text) :: pieces
  | pieces => .plain [c] :: pieces

/-- The pieces of a text, the first `skip` characters of which belong to a tag that has been
read. -/
def markupPiecesFrom : Nat → Text → List MarkupPiece
  | _, [] => []
  | skip + 1, _ :: rest => markupPiecesFrom skip rest
  | 0, c :: rest =>
      match tagHere? (c :: rest) with
      | some place => place.pieces ++ markupPiecesFrom (place.size - 1) rest
      | none => addPlain c (markupPiecesFrom 0 rest)

/-- The pieces of a text. -/
def markupPieces (text : Text) : List MarkupPiece := markupPiecesFrom 0 text

/-- A text whose tags are escaped, the first `skip` characters of which belong to a tag that has
been read. -/
def escapeTagsFrom : Nat → Text → Text
  | _, [] => []
  | skip + 1, c :: rest => c :: escapeTagsFrom skip rest
  | 0, c :: rest =>
      match tagHere? (c :: rest) with
      | some place =>
          List.replicate (place.slashes + 1) '\\' ++ c :: escapeTagsFrom (place.size - 1) rest
      | none => c :: escapeTagsFrom 0 rest

/-- A text whose tags are escaped: the backslashes before each of them are doubled, and another one
is put there. -/
def escapeTags (text : Text) : Text := escapeTagsFrom 0 text

/-! ### Emoji -/

/-- The name in the emoji code that a text begins with: what stands between two colons, without a
blank. -/
def emojiName? : Text → Option Text
  | ':' :: rest =>
      let name := rest.takeWhile fun c => c != ':' && !Text.isBlank c
      if (rest.drop name.length).head? == some ':' then some name else none
  | _ => none

/-- The ends of names that ask for a shape, and the characters that choose it. -/
def emojiShapes : List (Text × Char) := [("-emoji", '\uFE0F'), ("-text", '\uFE0E')]

/-- What is known of markup. -/
structure Markup where
  /-- The form of the name of a style in which names are compared, if the name can be read. -/
  normalStyle? : Text → Option Text
  /-- Whether a text can be shown in a style. -/
  setsStyle : Text → Bool
  /-- Whether the parameters can be read of a tag whose name begins with an at sign. -/
  readsParameters : Text → Bool
  /-- The emoji of a name. -/
  emoji? : Text → Option Text

/-- Markup without emoji, whose names are compared in lower case. -/
def Markup.plain : Markup where
  normalStyle? name := some (name.strip.map Char.toLower)
  setsStyle _ := true
  readsParameters _ := true
  emoji? _ := none

namespace Markup

/-- What stands in the place of an emoji code. -/
def emojiFor? (markup : Markup) (name : Text) : Option Text :=
  match emojiShapes.find? fun shape => shape.1.isSuffixOf name with
  | some (ending, shape) =>
      (markup.emoji? (name.take (name.length - ending.length))).map (· ++ [shape])
  | none => markup.emoji? name

/-- A text with the emoji for their codes. A code without an emoji stays, and its second colon
begins no other code. The first `skip` characters belong to a code that has been read. -/
def withEmojiFrom (markup : Markup) : Nat → Text → Text
  | _, [] => []
  | skip + 1, _ :: rest => markup.withEmojiFrom skip rest
  | 0, c :: rest =>
      match emojiName? (c :: rest) with
      | some name =>
          (markup.emojiFor? name).getD (':' :: (name ++ [':'])) ++
            markup.withEmojiFrom (name.length + 1) rest
      | none => c :: markup.withEmojiFrom 0 rest

/-- A text with the emoji for their codes. -/
def withEmoji (markup : Markup) (text : Text) : Text := markup.withEmojiFrom 0 text

/-! ### Rendering -/

/-- The last tag of a name among those that are open, the last one first, and the others. -/
def takeTag? (name : Text) : List MarkupTag → Option (MarkupTag × List MarkupTag)
  | [] => none
  | tag :: opened =>
      if tag.name = name then some (tag, opened)
      else (takeTag? name opened).map fun (found, others) => (found, tag :: others)

/-- The tag that a closing tag with this behind its slash ends, and those that stay open. -/
def close? (markup : Markup) (name : Text) (opened : List MarkupTag) :
    Option (MarkupTag × List MarkupTag) :=
  match name.strip, opened with
  | [], [] => none
  | [], tag :: others => some (tag, others)
  | c :: rest, opened => (markup.normalStyle? (c :: rest)).bind (takeTag? · opened)

/-- Whether a tag can be ended. -/
def endsTag (markup : Markup) (tag : MarkupTag) : Bool :=
  if tag.name.head? = some '@' then
    match tag.parameters with
    | some (c :: rest) => markup.readsParameters (c :: rest)
    | _ => true
  else markup.setsStyle tag.style

/-- What is shown of a piece that is no tag: a backslash before a bracket that begins no tag is
left out. -/
def shownPlain (markup : Markup) (text : Text) : Text :=
  markup.withEmoji (Text.replace ['\\', '['] ['['] text)

/-- What is shown of pieces behind tags that are open, the last one first. -/
def render? (markup : Markup) (opened : List MarkupTag) : List MarkupPiece → Option Text
  | [] => if opened.all fun tag => markup.setsStyle tag.style then some [] else none
  | .plain text :: pieces => (markup.render? opened pieces).map (markup.shownPlain text ++ ·)
  | .slashes count :: pieces =>
      (markup.render? opened pieces).map (List.replicate count '\\' ++ ·)
  | .escaped text :: pieces => (markup.render? opened pieces).map (markup.withEmoji text ++ ·)
  | .tag tag :: pieces =>
      match tag.name with
      | '/' :: name =>
          match markup.close? name opened with
          | some (closed, others) =>
              if markup.endsTag closed then markup.render? others pieces else none
          | none => none
      | name =>
          match markup.normalStyle? name with
          | some normal => markup.render? (⟨normal, tag.parameters⟩ :: opened) pieces
          | none => none

/-- The text that is shown in a cell. -/
def cell (markup : Markup) (text : Text) : Except Failure Text :=
  match markup.render? [] (markupPieces text) with
  | some shown => .ok shown
  | none => .error .markup

end Markup

end HotReload
