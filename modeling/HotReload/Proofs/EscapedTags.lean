import Mathlib.Data.List.TakeWhile
import HotReload.Command.Console
import HotReload.Proofs.Lines
/-!
Texts whose tags have been escaped, and what is shown of them in a cell.

* `tagHere?_eq_some_iff`: a tag and the backslashes before it stand at the front of a text just if
  they are found there. `tag_induction`: so a text is a row of tags and of characters with which no
  tag begins.
* `tagHere?_escapeTags`: escaping brings no tag about. `markupPieces_escapeTags_tag`: each tag is
  read as an escaped one, with the backslashes that were before it.
* `Markup.cell_escapeTags`: so the markup of an escaped text can be read, and the text is shown but
  for emoji and for backslashes that escape nothing (`Markup.cell_escapeTags_of_not_hasEmoji`).
* `Markup.cell_of_not_hasTag`: so is a text without tags that has not been escaped.
* `shown_eq_self_iff`: no backslash is left out just if each one before a bracket escapes a tag.
-/

namespace HotReload

variable {rest body : Text} {place : TagPlace} {c : Char}

/-! ### Tags at the front of a text -/

/-- The brackets around a tag. -/
def isTagBracket (c : Char) : Bool := c == '[' || c == ']'

/-- What stands between the brackets of a tag. -/
def IsTagBody (body : Text) : Prop :=
  ∃ c inner, body = c :: inner ∧ startsTag c = true ∧ ∀ d ∈ inner, isTagBracket d = false

/-- A tag with its brackets. -/
def inBrackets (body : Text) : Text := '[' :: (body ++ [']'])

/-- A tag with its brackets, and the backslashes before it. -/
def TagPlace.text (place : TagPlace) : Text :=
  List.replicate place.slashes '\\' ++ inBrackets place.body

lemma TagPlace.length_text (place : TagPlace) : place.text.length = place.size := by
  rw [text, inBrackets, size, List.length_append, List.length_replicate, List.length_cons,
    List.length_append, List.length_singleton]
  omega

lemma isTagBracket_of_startsTag (h : startsTag c = true) : isTagBracket c = false := by
  rw [Bool.eq_false_iff]
  intro hbracket
  rw [isTagBracket, Bool.or_eq_true, beq_iff_eq, beq_iff_eq] at hbracket
  rcases hbracket with rfl | rfl <;> exact absurd h (by decide)

lemma IsTagBody.forall_mem (h : IsTagBody body) : ∀ d ∈ body, isTagBracket d = false := by
  obtain ⟨c, inner, rfl, hc, hinner⟩ := h
  exact List.forall_mem_cons.mpr ⟨isTagBracket_of_startsTag hc, hinner⟩

lemma drop_length_takeWhile {α : Type} (p : α → Bool) (l : List α) :
    l.drop (l.takeWhile p).length = l.dropWhile p := by
  conv_lhs => arg 2; rw [← List.takeWhile_append_dropWhile (p := p) (l := l)]
  exact List.drop_left

lemma head?_dropWhile_isTagBracket (rest : Text) :
    (rest.dropWhile fun c => c != '[' && c != ']').head? = rest.find? isTagBracket := by
  have hnot : (fun c : Char => c != '[' && c != ']') = fun c => !isTagBracket c := by
    funext c
    rw [isTagBracket, Bool.not_or]
    rfl
  rw [hnot, List.find?_eq_head?_dropWhile_not]

lemma tagBody?_bracket (c : Char) (rest : Text) :
    (tagBody? ('[' :: c :: rest)).isSome =
      (startsTag c && rest.find? isTagBracket == some ']') := by
  rw [tagBody?, drop_length_takeWhile, head?_dropWhile_isTagBracket]
  split <;> simp_all

lemma tagBody?_of_ne (h : c ≠ '[') (rest : Text) : tagBody? (c :: rest) = none := by
  rw [tagBody?]
  intro d more hbegin
  exact h (List.cons.inj hbegin).1

lemma tagBody?_inBrackets (h : IsTagBody body) (rest : Text) :
    tagBody? (inBrackets body ++ rest) = some body := by
  obtain ⟨c, inner, rfl, hc, hinner⟩ := h
  have hinside : ∀ d ∈ inner, (d != '[' && d != ']') = true := by
    intro d hd
    have hbracket := hinner d hd
    rw [isTagBracket, Bool.or_eq_false_iff] at hbracket
    simp [bne, hbracket.1, hbracket.2]
  have htake : (inner ++ [']'] ++ rest).takeWhile (fun d => d != '[' && d != ']') = inner := by
    rw [List.append_assoc, List.takeWhile_append_of_pos hinside]
    simp
  rw [inBrackets, List.cons_append, List.cons_append, List.cons_append, tagBody?, htake,
    List.append_assoc, List.drop_left, hc]
  rfl

lemma exists_of_tagBody? {text : Text} (h : tagBody? text = some body) :
    IsTagBody body ∧ ∃ rest, text = inBrackets body ++ rest := by
  unfold tagBody? at h
  split at h
  · next c rest =>
      dsimp only at h
      split_ifs at h with hends
      obtain rfl := Option.some.inj h
      rw [Bool.and_eq_true, beq_iff_eq, drop_length_takeWhile] at hends
      obtain ⟨after, hafter⟩ := List.head?_eq_some_iff.mp hends.2
      refine ⟨⟨c, _, rfl, hends.1, fun d hd => ?_⟩, after, ?_⟩
      · have hinside := List.mem_takeWhile_imp hd
        simpa [isTagBracket] using hinside
      · have hsplit : rest.takeWhile (fun c => c != '[' && c != ']') ++
            rest.dropWhile (fun c => c != '[' && c != ']') = rest :=
          List.takeWhile_append_dropWhile
        rw [hafter] at hsplit
        rw [inBrackets, List.cons_append, List.cons_append, List.cons_append, List.append_assoc,
          List.singleton_append, hsplit]
  · exact absurd h (by simp)

/-! ### Tags behind backslashes -/

lemma tagHere?_slash (rest : Text) :
    tagHere? ('\\' :: rest) = (tagHere? rest).map fun place => ⟨place.slashes + 1, place.body⟩ := by
  rw [tagHere?, tagHere?, List.takeWhile_cons_of_pos (by rfl), List.length_cons,
    List.drop_succ_cons, Option.map_map]
  rfl

lemma tagHere?_of_ne (h : c ≠ '\\') (rest : Text) :
    tagHere? (c :: rest) = (tagBody? (c :: rest)).map (⟨0, ·⟩) := by
  rw [tagHere?, List.takeWhile_cons_of_neg (by simpa using h)]
  rfl

lemma TagPlace.text_succ (slashes : ℕ) (body : Text) :
    TagPlace.text ⟨slashes + 1, body⟩ = '\\' :: TagPlace.text ⟨slashes, body⟩ := rfl

/-- A tag is found just if it stands at the front of a text, behind its backslashes. -/
lemma tagHere?_eq_some_iff {text : Text} :
    tagHere? text = some place ↔ IsTagBody place.body ∧ ∃ rest, text = place.text ++ rest := by
  constructor
  · intro h
    induction text generalizing place with
    | nil => exact absurd h (by simp [tagHere?, tagBody?])
    | cons c text ih =>
        by_cases hc : c = '\\'
        · subst hc
          rw [tagHere?_slash, Option.map_eq_some_iff] at h
          obtain ⟨behind, hbehind, rfl⟩ := h
          obtain ⟨hbody, rest, rfl⟩ := ih hbehind
          exact ⟨hbody, rest, by rw [TagPlace.text_succ, List.cons_append]⟩
        · rw [tagHere?_of_ne hc, Option.map_eq_some_iff] at h
          obtain ⟨body, hbody, rfl⟩ := h
          exact exists_of_tagBody? hbody
  -- the backslashes are counted one by one
  · rintro ⟨hbody, rest, rfl⟩
    obtain ⟨slashes, body⟩ := place
    induction slashes with
    | zero =>
        have hfound := tagBody?_inBrackets hbody rest
        rw [inBrackets, List.cons_append] at hfound
        have htext : TagPlace.text ⟨0, body⟩ = '[' :: (body ++ [']']) := rfl
        rw [htext, List.cons_append, tagHere?_of_ne (by decide), hfound]
        rfl
    | succ slashes ih =>
        rw [TagPlace.text_succ, List.cons_append, tagHere?_slash, ih hbody]
        rfl

lemma tagHere?_text (h : IsTagBody place.body) (rest : Text) :
    tagHere? (place.text ++ rest) = some place :=
  tagHere?_eq_some_iff.mpr ⟨h, rest, rfl⟩

/-- A text is empty, or begins with a character that begins no tag, or with a tag. -/
@[elab_as_elim]
lemma tag_induction {motive : Text → Prop} (nil : motive [])
    (plain : ∀ c rest, tagHere? (c :: rest) = none → motive rest → motive (c :: rest))
    (tag : ∀ (place : TagPlace) rest, IsTagBody place.body → motive rest →
      motive (place.text ++ rest)) (text : Text) : motive text := by
  induction hlength : text.length using Nat.strong_induction_on generalizing text with
  | h n ih =>
      subst hlength
      cases text with
      | nil => exact nil
      | cons c rest =>
          cases hhere : tagHere? (c :: rest) with
          | none => exact plain c rest hhere (ih rest.length (by simp) rest rfl)
          | some place =>
              obtain ⟨hbody, behind, htext⟩ := tagHere?_eq_some_iff.mp hhere
              rw [htext]
              refine tag place behind hbody (ih behind.length ?_ behind rfl)
              have hsize := congrArg List.length htext
              rw [List.length_append, place.length_text, TagPlace.size] at hsize
              omega

/-! ### Escaping -/

/-- The place of a tag once it has been escaped. -/
def TagPlace.escaped (place : TagPlace) : TagPlace := ⟨2 * place.slashes + 1, place.body⟩

lemma escapeTagsFrom_eq (skip : ℕ) (text : Text) :
    escapeTagsFrom skip text = text.take skip ++ escapeTags (text.drop skip) := by
  induction text generalizing skip with
  | nil => cases skip <;> rfl
  | cons c text ih =>
      cases skip with
      | zero => rfl
      | succ skip => rw [escapeTagsFrom, ih, List.take_succ_cons, List.drop_succ_cons,
          List.cons_append]

lemma markupPiecesFrom_eq (skip : ℕ) (text : Text) :
    markupPiecesFrom skip text = markupPieces (text.drop skip) := by
  induction text generalizing skip with
  | nil => cases skip <;> rfl
  | cons c text ih =>
      cases skip with
      | zero => rfl
      | succ skip => rw [markupPiecesFrom, ih, List.drop_succ_cons]

lemma escapeTags_plain (h : tagHere? (c :: rest) = none) :
    escapeTags (c :: rest) = c :: escapeTags rest := by
  rw [escapeTags, escapeTagsFrom, h]
  rfl

lemma markupPieces_plain (h : tagHere? (c :: rest) = none) :
    markupPieces (c :: rest) = addPlain c (markupPieces rest) := by
  rw [markupPieces, markupPiecesFrom, h]
  rfl

/-- The text of a tag is not empty, and what stands behind its first character is skipped. -/
lemma TagPlace.exists_text_eq_cons (place : TagPlace) :
    ∃ c more, place.text = c :: more ∧ more.length = place.size - 1 := by
  obtain ⟨c, more, hmore⟩ : ∃ c more, place.text = c :: more :=
    List.exists_cons_of_ne_nil (by simp [text, inBrackets])
  refine ⟨c, more, hmore, ?_⟩
  rw [← place.length_text, hmore]
  rfl

lemma escapeTags_tag (h : IsTagBody place.body) (rest : Text) :
    escapeTags (place.text ++ rest) = place.escaped.text ++ escapeTags rest := by
  obtain ⟨c, more, hmore, hlength⟩ := place.exists_text_eq_cons
  have hescaped : place.escaped.text = List.replicate (place.slashes + 1) '\\' ++ (c :: more) := by
    have hslashes : 2 * place.slashes + 1 = place.slashes + 1 + place.slashes := by omega
    rw [← hmore, TagPlace.text, TagPlace.text, TagPlace.escaped, hslashes,
      List.replicate_add, List.append_assoc]
  have hhere := tagHere?_text h rest
  rw [hmore, List.cons_append] at hhere ⊢
  rw [escapeTags, escapeTagsFrom, hhere]
  dsimp only
  rw [escapeTagsFrom_eq, ← hlength, List.take_left, List.drop_left, hescaped, List.append_assoc,
    List.cons_append]

lemma markupPieces_tag (h : IsTagBody place.body) (rest : Text) :
    markupPieces (place.text ++ rest) = place.pieces ++ markupPieces rest := by
  obtain ⟨c, more, hmore, hlength⟩ := place.exists_text_eq_cons
  have hhere := tagHere?_text h rest
  rw [hmore, List.cons_append] at hhere ⊢
  rw [markupPieces, markupPiecesFrom, hhere]
  dsimp only
  rw [markupPiecesFrom_eq, ← hlength, List.drop_left]

lemma find?_isTagBracket_text (place : TagPlace) (rest : Text) :
    (place.text ++ rest).find? isTagBracket = some '[' := by
  have hslashes : (List.replicate place.slashes '\\').find? isTagBracket = none :=
    List.find?_eq_none.mpr fun c hc => by
      rw [List.eq_of_mem_replicate hc]
      decide
  rw [TagPlace.text, List.append_assoc, List.find?_append, hslashes]
  rfl

/-- Escaping only puts backslashes before tags, and so the first bracket stays. -/
lemma find?_escapeTags (text : Text) :
    (escapeTags text).find? isTagBracket = text.find? isTagBracket := by
  induction text using tag_induction with
  | nil => rfl
  | plain c rest h ih => rw [escapeTags_plain h, List.find?_cons, List.find?_cons, ih]
  | tag place rest hbody ih =>
      rw [escapeTags_tag hbody, find?_isTagBracket_text, find?_isTagBracket_text]

lemma tagBody?_escapeTags (h : tagBody? ('[' :: rest) = none) :
    tagBody? ('[' :: escapeTags rest) = none := by
  induction rest using tag_induction with
  | nil => rfl
  | plain c rest hplain =>
      -- the first character and the first bracket behind it are the same as before
      rw [escapeTags_plain hplain, ← Option.not_isSome_iff_eq_none, tagBody?_bracket,
        find?_escapeTags, ← tagBody?_bracket, h]
      exact Bool.false_ne_true
  | tag place rest hbody =>
      -- a backslash stands behind the bracket now
      rw [escapeTags_tag hbody, TagPlace.escaped, TagPlace.text_succ, List.cons_append,
        ← Option.not_isSome_iff_eq_none, tagBody?_bracket]
      exact Bool.false_ne_true

/-- No tag begins where none has begun before the text was escaped. -/
lemma tagHere?_escapeTags {text : Text} (h : tagHere? text = none) :
    tagHere? (escapeTags text) = none := by
  induction text with
  | nil => exact h
  | cons c text ih =>
      rw [escapeTags_plain h]
      by_cases hc : c = '\\'
      · subst hc
        rw [tagHere?_slash, Option.map_eq_none_iff] at h ⊢
        exact ih h
      · rw [tagHere?_of_ne hc, Option.map_eq_none_iff] at h ⊢
        by_cases hbracket : c = '['
        · subst hbracket
          exact tagBody?_escapeTags h
        · exact tagBody?_of_ne hbracket _

lemma markupPieces_escapeTags_plain (h : tagHere? (c :: rest) = none) :
    markupPieces (escapeTags (c :: rest)) = addPlain c (markupPieces (escapeTags rest)) := by
  have hescaped := tagHere?_escapeTags h
  rw [escapeTags_plain h] at hescaped ⊢
  exact markupPieces_plain hescaped

/-- A tag that has been escaped is read as its text, behind the backslashes that it had. -/
lemma markupPieces_escapeTags_tag (h : IsTagBody place.body) (rest : Text) :
    markupPieces (escapeTags (place.text ++ rest)) =
      (if place.slashes = 0 then [] else [.slashes place.slashes]) ++
        .escaped (inBrackets place.body) :: markupPieces (escapeTags rest) := by
  have hbody : IsTagBody place.escaped.body := h
  have hhalf : (2 * place.slashes + 1) / 2 = place.slashes := by omega
  have hodd : (2 * place.slashes + 1) % 2 = 1 := by omega
  have hnone : 2 * place.slashes + 1 < 2 ↔ place.slashes = 0 := by omega
  rw [escapeTags_tag h, markupPieces_tag hbody, TagPlace.pieces, TagPlace.escaped]
  dsimp only
  simp only [hhalf, hodd, hnone, ↓reduceIte, List.append_assoc, List.singleton_append]
  rfl

/-! ### Rendering -/

/-- Whether a piece is shown, and sets no style. -/
def MarkupPiece.isShown : MarkupPiece → Bool
  | .tag _ => false
  | _ => true

lemma forall_addPlain {pieces : List MarkupPiece} (h : ∀ p ∈ pieces, p.isShown = true) (c : Char) :
    ∀ p ∈ addPlain c pieces, p.isShown = true := by
  rw [addPlain.eq_def]
  split
  · exact List.forall_mem_cons.mpr ⟨rfl, (List.forall_mem_cons.mp h).2⟩
  · exact List.forall_mem_cons.mpr ⟨rfl, h⟩

/-- A text whose tags have been escaped sets no style. -/
lemma forall_markupPieces_escapeTags (text : Text) :
    ∀ p ∈ markupPieces (escapeTags text), p.isShown = true := by
  induction text using tag_induction with
  | nil => simp [escapeTags, escapeTagsFrom, markupPieces, markupPiecesFrom]
  | plain c rest h ih =>
      rw [markupPieces_escapeTags_plain h]
      exact forall_addPlain ih c
  | tag place rest hbody ih =>
      rw [markupPieces_escapeTags_tag hbody]
      refine List.forall_mem_append.mpr ⟨?_, List.forall_mem_cons.mpr ⟨rfl, ih⟩⟩
      split <;> simp [MarkupPiece.isShown]

/-- What is shown of a piece. -/
def Markup.shownPiece (markup : Markup) : MarkupPiece → Text
  | .plain text => markup.shownPlain text
  | .slashes count => List.replicate count '\\'
  | .escaped text => markup.withEmoji text
  | .tag _ => []

variable {markup : Markup}

lemma Markup.render?_of_forall {pieces : List MarkupPiece}
    (h : ∀ p ∈ pieces, p.isShown = true) :
    markup.render? [] pieces = some (pieces.flatMap markup.shownPiece) := by
  induction pieces with
  | nil => rfl
  | cons p pieces ih =>
      rw [List.forall_mem_cons] at h
      cases p with
      | plain text | slashes count | escaped text =>
          rw [render?, ih h.2, List.flatMap_cons]
          rfl
      | tag tag => exact absurd h.1 Bool.false_ne_true

/-- The markup of an escaped text can be read. -/
theorem Markup.cell_escapeTags (markup : Markup) (text : Text) :
    markup.cell (escapeTags text) =
      .ok ((markupPieces (escapeTags text)).flatMap markup.shownPiece) := by
  rw [cell, render?_of_forall (forall_markupPieces_escapeTags text)]

/-! ### Emoji -/

/-- A text with an emoji code in it: the name of an emoji without a blank, between two colons. -/
def Markup.HasEmoji (markup : Markup) (text : Text) : Prop :=
  ∃ name : Text, (∀ c ∈ name, c ≠ ':' ∧ Text.isBlank c = false) ∧
    ':' :: (name ++ [':']) <:+: text ∧ (markup.emojiFor? name).isSome = true

lemma Markup.HasEmoji.mono {text longer : Text} (h : markup.HasEmoji text)
    (hpart : text <:+: longer) : markup.HasEmoji longer := by
  obtain ⟨name, hname, hcode, hemoji⟩ := h
  exact ⟨name, hname, hcode.trans hpart, hemoji⟩

lemma exists_of_emojiName? {text name : Text} (h : emojiName? text = some name) :
    (∀ c ∈ name, c ≠ ':' ∧ Text.isBlank c = false) ∧
      ∃ rest, text = ':' :: (name ++ ':' :: rest) := by
  unfold emojiName? at h
  split at h
  · next rest =>
      dsimp only at h
      split_ifs at h with hends
      obtain rfl := Option.some.inj h
      rw [beq_iff_eq, drop_length_takeWhile] at hends
      obtain ⟨after, hafter⟩ := List.head?_eq_some_iff.mp hends
      refine ⟨fun c hc => ?_, after, ?_⟩
      · have hinside := List.mem_takeWhile_imp hc
        simpa using hinside
      · have hsplit : rest.takeWhile (fun c => c != ':' && !Text.isBlank c) ++
            rest.dropWhile (fun c => c != ':' && !Text.isBlank c) = rest :=
          List.takeWhile_append_dropWhile
        rw [← hafter, hsplit]
  · exact absurd h (by simp)

/-- A text without emoji codes stays as it is. -/
lemma Markup.withEmojiFrom_of_not_hasEmoji {text : Text} (h : ¬ markup.HasEmoji text)
    (skip : ℕ) : markup.withEmojiFrom skip text = text.drop skip := by
  induction text generalizing skip with
  | nil => cases skip <;> rfl
  | cons c rest ih =>
      have hbehind : ¬ markup.HasEmoji rest :=
        fun hrest => h (hrest.mono (List.suffix_cons c rest).isInfix)
      cases skip with
      | succ skip => rw [withEmojiFrom, ih hbehind, List.drop_succ_cons]
      | zero =>
          rw [withEmojiFrom]
          split
          · next name hcode =>
              obtain ⟨hname, after, htext⟩ := exists_of_emojiName? hcode
              -- a code that is found here is the code of no emoji, and is put back as it was
              have hnone : markup.emojiFor? name = none := by
                refine Option.not_isSome_iff_eq_none.mp fun hemoji => h ⟨name, hname, ?_, hemoji⟩
                rw [htext]
                exact ⟨[], after, by simp⟩
              obtain ⟨rfl, rfl⟩ := List.cons.inj htext
              have hdrop : (name ++ ':' :: after).drop (name.length + 1) = after := by
                rw [← List.drop_drop, List.drop_left, List.drop_succ_cons, List.drop_zero]
              rw [hnone, Option.getD_none, ih hbehind, hdrop]
              simp
          · rw [ih hbehind, List.drop_zero, List.drop_zero]

lemma Markup.withEmoji_of_not_hasEmoji {text : Text} (h : ¬ markup.HasEmoji text) :
    markup.withEmoji text = text :=
  withEmojiFrom_of_not_hasEmoji h 0

/-! ### Backslashes that escape nothing -/

/-- A text with a backslash before a bracket that begins no tag. -/
def HasLooseSlash (text : Text) : Prop :=
  ∃ rest, '\\' :: '[' :: rest <:+ text ∧ tagBody? ('[' :: rest) = none

lemma shown_cons_of_ne (h : c ≠ '\\') (rest : Text) : shown (c :: rest) = c :: shown rest := by
  rw [shown, if_neg (by simp [h])]

lemma shown_cons_of_head? (h : rest.head? ≠ some '[') (c : Char) :
    shown (c :: rest) = c :: shown rest := by
  rw [shown, if_neg (by simp [h])]

lemma shown_loose (h : tagBody? ('[' :: rest) = none) :
    shown ('\\' :: '[' :: rest) = shown ('[' :: rest) := by
  rw [shown, if_pos (by simp [h])]

lemma shown_escaping (h : (tagBody? rest).isSome = true) :
    shown ('\\' :: rest) = '\\' :: shown rest := by
  rw [shown, if_neg (by simp [Option.isSome_iff_ne_none.mp h])]

lemma shown_inner {inner : Text} (h : ∀ d ∈ inner, isTagBracket d = false) (rest : Text) :
    shown (inner ++ ']' :: rest) = inner ++ shown (']' :: rest) := by
  induction inner with
  | nil => rfl
  | cons d inner ih =>
      rw [List.forall_mem_cons] at h
      have hhead : (inner ++ ']' :: rest).head? ≠ some '[' := by
        cases inner with
        | nil => simp
        | cons e inner =>
            rintro hbracket
            obtain rfl := Option.some.inj hbracket
            exact absurd (h.2 '[' List.mem_cons_self) (by decide)
      rw [List.cons_append, shown_cons_of_head? hhead, ih h.2, List.cons_append]

/-- A tag is shown with all the backslashes before it. -/
lemma shown_tag (h : IsTagBody place.body) (rest : Text) :
    shown (place.text ++ rest) = place.text ++ shown rest := by
  obtain ⟨slashes, body⟩ := place
  induction slashes with
  | zero =>
      have htext : TagPlace.text ⟨0, body⟩ = '[' :: (body ++ [']']) := rfl
      rw [htext, List.cons_append, List.append_assoc, List.singleton_append,
        shown_cons_of_ne (by decide), shown_inner h.forall_mem, shown_cons_of_ne (by decide),
        List.cons_append, List.append_assoc, List.singleton_append]
  | succ slashes ih =>
      have hbehind := ih h
      rw [TagPlace.text_succ, List.cons_append, List.cons_append, ← hbehind]
      cases slashes with
      | zero =>
          refine shown_escaping ?_
          have hfound := tagBody?_inBrackets h rest
          rw [show TagPlace.text ⟨0, body⟩ = inBrackets body from rfl, hfound]
          rfl
      | succ slashes => exact shown_cons_of_head? (by simp [TagPlace.text_succ]) _

lemma shown_length_le (text : Text) : (shown text).length ≤ text.length := by
  induction text with
  | nil => exact Nat.le_refl 0
  | cons c rest ih =>
      rw [shown]
      split
      · exact Nat.le_succ_of_le ih
      · exact Nat.succ_le_succ ih

/-- Nothing is left out just if every backslash before a bracket escapes a tag. -/
theorem shown_eq_self_iff {text : Text} : shown text = text ↔ ¬ HasLooseSlash text := by
  induction text with
  | nil =>
      refine iff_of_true rfl ?_
      rintro ⟨rest, hsuffix, -⟩
      exact absurd (List.suffix_nil.mp hsuffix) (by simp)
  | cons c rest ih =>
      have hloose : HasLooseSlash (c :: rest) ↔
          (∃ behind, c :: rest = '\\' :: '[' :: behind ∧ tagBody? ('[' :: behind) = none) ∨
            HasLooseSlash rest := by
        simp only [HasLooseSlash, List.suffix_cons_iff, or_and_right, exists_or, eq_comm]
      -- what is left out is missing in the length, and nothing comes in its place
      by_cases hhere :
          ∃ behind, c :: rest = '\\' :: '[' :: behind ∧ tagBody? ('[' :: behind) = none
      · refine iff_of_false ?_ (not_not.mpr (hloose.mpr (.inl hhere)))
        obtain ⟨behind, hbegin, hnone⟩ := hhere
        rw [hbegin, shown_loose hnone]
        intro hequal
        have hlength := shown_length_le ('[' :: behind)
        rw [hequal, List.length_cons] at hlength
        omega
      · have hkept : shown (c :: rest) = c :: shown rest := by
          rw [shown, if_neg]
          intro hcondition
          simp only [Bool.and_eq_true, decide_eq_true_eq, Option.isNone_iff_eq_none] at hcondition
          obtain ⟨⟨rfl, hhead⟩, hnone⟩ := hcondition
          obtain ⟨behind, rfl⟩ := List.head?_eq_some_iff.mp hhead
          exact hhere ⟨behind, rfl, hnone⟩
        rw [hkept, hloose, or_iff_right hhere, ← ih]
        exact ⟨fun h => (List.cons.inj h).2, congrArg (c :: ·)⟩

/-- What is shown of a piece, but for its emoji. -/
def MarkupPiece.text : MarkupPiece → Text
  | .plain text => Text.replace ['\\', '['] ['['] text
  | .slashes count => List.replicate count '\\'
  | .escaped text => text
  | .tag _ => []

lemma replace_cons_of_ne {d : Char} (h : c ≠ '\\' ∨ d ≠ '[') (x : Text) :
    Text.replace ['\\', '['] ['['] (c :: d :: x) =
      c :: Text.replace ['\\', '['] ['['] (d :: x) := by
  rw [Text.replace, Text.replaceFrom, if_neg]
  · rfl
  · rw [List.isPrefixOf_iff_prefix, List.cons_prefix_cons, List.cons_prefix_cons]
    rintro ⟨rfl, rfl, -⟩
    exact h.elim (· rfl) (· rfl)

lemma flatMap_text_addPlain (h : c ≠ '\\') (pieces : List MarkupPiece) :
    (addPlain c pieces).flatMap MarkupPiece.text = c :: pieces.flatMap MarkupPiece.text := by
  have hhere (x : Text) : ¬ (['\\', '[']).isPrefixOf (c :: x) = true := by
    rw [List.isPrefixOf_iff_prefix, List.cons_prefix_cons]
    exact fun hbegin => h hbegin.1.symm
  rw [addPlain.eq_def]
  split
  all_goals
    rw [List.flatMap_cons, MarkupPiece.text, Text.replace, Text.replaceFrom, if_neg (hhere _)]
    rfl

/-- But for emoji, all of an escaped text is shown that a message shows of the text itself. -/
lemma flatMap_text_markupPieces (text : Text) :
    (markupPieces (escapeTags text)).flatMap MarkupPiece.text = shown text := by
  induction text using tag_induction with
  | nil => rfl
  | tag place rest hbody ih =>
      rw [markupPieces_escapeTags_tag hbody, List.flatMap_append, List.flatMap_cons, ih,
        shown_tag hbody, TagPlace.text, List.append_assoc]
      split
      · next hnone =>
          rw [hnone]
          rfl
      · rw [List.flatMap_singleton]
        rfl
  | plain c rest h ih =>
      rw [markupPieces_escapeTags_plain h]
      by_cases hc : c = '\\'
      · subst hc
        cases rest with
        | nil => rfl
        | cons d rest =>
            -- the next character begins no tag either, and so it stands in the same piece
            have hnext : tagHere? (d :: rest) = none := by
              rwa [tagHere?_slash, Option.map_eq_none_iff] at h
            obtain ⟨x, pieces, hpieces⟩ : ∃ x pieces,
                markupPieces (escapeTags (d :: rest)) = .plain (d :: x) :: pieces := by
              rw [markupPieces_escapeTags_plain hnext, addPlain.eq_def]
              split <;> exact ⟨_, _, rfl⟩
            rw [hpieces, List.flatMap_cons, MarkupPiece.text] at ih
            rw [hpieces, addPlain, List.flatMap_cons, MarkupPiece.text]
            by_cases hd : d = '['
            · subst hd
              have hnone : tagBody? ('[' :: rest) = none := by
                rwa [tagHere?_of_ne (by decide), Option.map_eq_none_iff] at hnext
              have hreplaced : Text.replace ['\\', '['] ['['] ('\\' :: '[' :: x) =
                  Text.replace ['\\', '['] ['['] ('[' :: x) :=
                Text.replace_pattern_append (by simp) ['['] x
              rw [shown_loose hnone, hreplaced, ih]
            · rw [shown_cons_of_head? (by simpa using hd), replace_cons_of_ne (.inr hd),
                List.cons_append, ih]
      · rw [shown_cons_of_ne hc, flatMap_text_addPlain hc, ih]

/-! ### Cells -/

/-- Without emoji, an escaped text is shown as a message is. -/
theorem Markup.cell_escapeTags_of_not_hasEmoji {text : Text}
    (h : ¬ markup.HasEmoji (shown text)) : markup.cell (escapeTags text) = .ok (shown text) := by
  have hpieces : (markupPieces (escapeTags text)).flatMap markup.shownPiece =
      (markupPieces (escapeTags text)).flatMap MarkupPiece.text := by
    refine List.flatMap_congr fun p hp => ?_
    -- what is shown of the piece is a part of what is shown of the text
    have hpart : ¬ markup.HasEmoji p.text := by
      refine fun hemoji => h (hemoji.mono ?_)
      rw [← flatMap_text_markupPieces]
      exact List.infix_of_mem_flatten (List.mem_map_of_mem hp)
    cases p with
    | plain text | escaped text => exact withEmoji_of_not_hasEmoji hpart
    | slashes count | tag tag => rfl
  rw [cell_escapeTags, hpieces, flatMap_text_markupPieces]

/-- A text with a tag in it. -/
def HasTag (text : Text) : Prop := ∃ body, IsTagBody body ∧ inBrackets body <:+: text

lemma escapeTags_of_not_hasTag {text : Text} (h : ¬ HasTag text) : escapeTags text = text := by
  induction text using tag_induction with
  | nil => rfl
  | plain c rest hplain ih =>
      rw [escapeTags_plain hplain]
      refine congrArg (c :: ·) (ih ?_)
      rintro ⟨body, hbody, hpart⟩
      exact h ⟨body, hbody, hpart.trans (List.suffix_cons c rest).isInfix⟩
  | tag place rest hbody =>
      refine absurd ⟨place.body, hbody, ?_⟩ h
      exact ⟨List.replicate place.slashes '\\', rest, by rw [TagPlace.text]⟩

/-- Without tags and emoji, a text is shown as a message is. -/
theorem Markup.cell_of_not_hasTag {text : Text} (htag : ¬ HasTag text)
    (hemoji : ¬ markup.HasEmoji (shown text)) : markup.cell text = .ok (shown text) := by
  have hcell := cell_escapeTags_of_not_hasEmoji hemoji
  rwa [escapeTags_of_not_hasTag htag] at hcell

end HotReload
