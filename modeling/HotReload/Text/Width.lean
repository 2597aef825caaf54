import HotReload.Text.Printable
import HotReload.Text.Width.Tables
/-!
How many places a text takes in a terminal.

* `charWidth` is the width of a character by itself: none, one or two places.
* `Text.width` is the width of a text. A joiner hides the character after it, and the
  emoji selector widens the character before it.
* `Text.clusters` are the stretches of a text that are kept together where it is cut.
-/

namespace HotReload

/-- The places a character takes. -/
def charWidth (c : Char) : Nat :=
  let n := c.toNat
  if n < 0x20 then 0
  else if n < 0x7F then 1
  else if n < 0xA0 then 0
  else if [zeroWidthA, zeroWidthB, zeroWidthC, zeroWidthD].any (inRanges · n) then 0
  else if inRanges wideRanges n then 2
  else 1

/-- The character that joins its neighbours into one emoji. -/
def emojiJoiner : Char := '\u200d'

/-- The character that asks for the emoji variation of the character before it. -/
def emojiSelector : Char := '\ufe0f'

/-- Whether a character takes one place more in its emoji variation. -/
def hasWideVariant (c : Char) : Bool := inRanges emojiVariants c.toNat

/-- The places that a selector adds to `base`, the last character before it that takes any
and has not been widened yet. -/
def selectorWidth : Option Char → Nat
  | some c => if hasWideVariant c then 1 else 0
  | none => 0

namespace Text

/-- The places a text takes that comes after `base`. -/
def widthAfter (base : Option Char) : Text → Nat
  | [] => 0
  | c :: rest =>
      if c = emojiJoiner then
        match rest with
        | [] => 0
        | _ :: rest => widthAfter base rest
      else if c = emojiSelector then selectorWidth base + widthAfter none rest
      else if charWidth c = 0 then widthAfter base rest
      else charWidth c + widthAfter (some c) rest

/-- The places a text takes. -/
def width (text : Text) : Nat := widthAfter none text

@[simp] theorem width_nil : width [] = 0 := rfl

/-! ### Clusters -/

/-- A stretch of text that is kept together, and the places it takes. -/
structure Cluster where
  text : Text
  width : Nat
  deriving DecidableEq, Repr

/-- More text in a cluster. -/
def Cluster.extend (cluster : Cluster) (more : Text) (places : Nat) : Cluster :=
  ⟨cluster.text ++ more, cluster.width + places⟩

/-- The clusters of a text after those in `done`, the last of which comes first. A character
without a place belongs to the cluster before it. -/
def clustersAfter (done : List Cluster) (base : Option Char) : Text → List Cluster
  | [] => done.reverse
  | c :: rest =>
      match done with
      | [] =>
          let base := if charWidth c = 0 then base else some c
          clustersAfter [⟨[c], charWidth c⟩] base rest
      | last :: before =>
          if c = emojiJoiner then
            match rest with
            | [] => (last.extend [c] 0 :: before).reverse
            | d :: rest => clustersAfter (last.extend [c, d] 0 :: before) base rest
          else if c = emojiSelector then
            clustersAfter (last.extend [c] (selectorWidth base) :: before) none rest
          else if charWidth c = 0 then clustersAfter (last.extend [c] 0 :: before) base rest
          else clustersAfter (⟨[c], charWidth c⟩ :: done) (some c) rest

/-- The clusters of a text. -/
def clusters (text : Text) : List Cluster := clustersAfter [] none text

end Text

end HotReload
