import Mathlib.Data.List.TakeWhile
import HotReload.Stylesheet
/-!
Where the stylesheet and its id stand in the code.

A place in a text is the text before it, and the first of some places (`IsFirst`) is the one that
the fewest characters stand before.

* `LineBegins` says that a line begins with a pattern at a place; `cutAtLine?_cases` that a cut
  finds the first such place behind what has been read.
* `IsStylesheetCut` says what the function with the stylesheet is without reading the code, and
  `cutStylesheet_eq_some_iff` that it is what is cut out.
* `AssignsId` says that an id is assigned at a place; `styleId?_eq_some_iff`: the id that is found
  is the one at the first such place.
* `readStylesheet_finds` has both for what is read of a component.
-/

namespace HotReload

/-! ### First places -/

/-- The first of the places with a property. -/
structure IsFirst (P : Text → Prop) (place : Text) : Prop where
  holds : P place
  first : ∀ other, P other → place.length ≤ other.length

lemma IsFirst.congr {P Q : Text → Prop} {place : Text} (h : IsFirst P place)
    (hiff : ∀ other, P other ↔ Q other) : IsFirst Q place where
  holds := (hiff place).mp h.holds
  first := fun other hother => h.first other ((hiff other).mpr hother)

/-- There is one first place only among those of one text. -/
lemma IsFirst.unique {P : Text → Prop} {text place other : Text}
    (hplaces : ∀ place, P place → place <+: text) (hplace : IsFirst P place)
    (hother : IsFirst P other) : place = other := by
  have hlength : place.length = other.length :=
    Nat.le_antisymm (hplace.first _ hother.holds) (hother.first _ hplace.holds)
  have hpre := List.prefix_of_prefix_length_le (hplaces _ hplace.holds) (hplaces _ hother.holds)
    hlength.le
  exact hpre.eq_of_length hlength

/-- A reading that does not stop behind `lead` goes on behind the next character. -/
lemma place_behind_iff {P : Text → Prop} {lead rest : Text} {c : Char}
    (hplaces : ∀ place, P place → place <+: lead ++ c :: rest) (hlead : ¬ P lead) (place : Text) :
    (lead ++ [c]).length ≤ place.length ∧ P place ↔ lead.length ≤ place.length ∧ P place := by
  rw [List.length_append, List.length_singleton]
  refine ⟨fun h => ⟨by omega, h.2⟩, fun h => ⟨?_, h.2⟩⟩
  by_contra hlt
  have hlength : place.length = lead.length := by omega
  have hpre := List.prefix_of_prefix_length_le (hplaces place h.2) (List.prefix_append lead _)
    hlength.le
  exact hlead (hpre.eq_of_length hlength ▸ h.2)

/-! ### Lines -/

/-- A line starts behind a text: at the start of all, or behind a line end. -/
def StartsLine (place : Text) : Prop := place = [] ∨ place.getLast? = some '\n'

/-- At a place of the text, a line begins with a pattern. -/
def LineBegins (pattern text place : Text) : Prop :=
  StartsLine place ∧ place ++ pattern <+: text

lemma startsLine_concat (place : Text) (c : Char) : StartsLine (place ++ [c]) ↔ c = '\n' := by
  simp [StartsLine]

lemma LineBegins.prefix_text {pattern text place : Text} (h : LineBegins pattern text place) :
    place <+: text :=
  (List.prefix_append place pattern).trans h.2

/-- A cut finds the first line behind `lead` that begins with the pattern, or there is none. -/
lemma cutAtLine?_cases {pattern : Text} (hpattern : pattern ≠ []) (text : Text) (atStart : Bool)
    (lead : Text) (hstart : atStart = true ↔ StartsLine lead) :
    (cutAtLine? pattern atStart text = none ∧
      ∀ place, lead.length ≤ place.length → ¬ LineBegins pattern (lead ++ text) place) ∨
    ∃ before after, cutAtLine? pattern atStart text = some (before, after) ∧
      before ++ after = text ∧
      IsFirst (fun place => lead.length ≤ place.length ∧ LineBegins pattern (lead ++ text) place)
        (lead ++ before) := by
  induction text generalizing atStart lead with
  | nil =>
      refine .inl ⟨rfl, fun place hplace hline => ?_⟩
      have hlength := hline.2.length_le
      have hpos := List.length_pos_iff.mpr hpattern
      rw [List.append_nil, List.length_append] at hlength
      omega
  | cons c rest ih =>
      have hhere : (atStart && pattern.isPrefixOf (c :: rest)) = true ↔
          LineBegins pattern (lead ++ c :: rest) lead := by
        rw [Bool.and_eq_true, hstart, List.isPrefixOf_iff_prefix, LineBegins,
          List.prefix_append_right_inj]
      rw [cutAtLine?]
      split
      · next h =>
          refine .inr ⟨[], c :: rest, rfl, rfl, ?_⟩
          rw [List.append_nil]
          exact ⟨⟨le_rfl, hhere.mp h⟩, fun other hother => hother.1⟩
      · next h =>
          -- the line does not begin here, and the character is now part of the lead
          have hnext := ih (c == '\n') (lead ++ [c]) (by rw [startsLine_concat, beq_iff_eq])
          rw [List.append_assoc, List.singleton_append] at hnext
          have hbehind := place_behind_iff (fun _ => LineBegins.prefix_text) (mt hhere.mpr h)
          rcases hnext with ⟨hnone, hno⟩ | ⟨before, after, hcut, rfl, hfirst⟩
          · refine .inl ⟨by rw [hnone]; rfl, fun place hplace hline => ?_⟩
            exact hno place ((hbehind place).mpr ⟨hplace, hline⟩).1 hline
          · refine .inr ⟨c :: before, after, by rw [hcut]; rfl, rfl, ?_⟩
            have := hfirst.congr hbehind
            rwa [List.append_assoc, List.singleton_append] at this

/-! ### The function with the stylesheet -/

/-- The first line with the header, up to the brace that the first later line begins with. -/
structure IsStylesheetCut (code : Text) (cut : StylesheetCut) : Prop where
  code_eq : cut.before ++ cut.body ++ cut.after = code
  header : IsFirst (LineBegins styleHeader code) cut.before
  closing : ∃ inner, cut.body = inner ++ ['\x7d'] ∧
    IsFirst (fun place => cut.before.length < place.length ∧ LineBegins ['\x7d'] code place)
      (cut.before ++ inner)

/-- There is a line with the header and a later one that begins with a brace. -/
def HasStylesheet (code : Text) : Prop :=
  ∃ header closing, LineBegins styleHeader code header ∧ LineBegins ['\x7d'] code closing ∧
    header.length < closing.length

lemma newline_notMem_styleHeader : '\n' ∉ styleHeader := by decide

/-- No line starts within the header or just behind it. -/
lemma header_length_le_iff {before rest place : Text}
    (hplace : place <+: before ++ styleHeader ++ rest) (hline : StartsLine place) :
    (before ++ styleHeader).length ≤ place.length ↔ before.length < place.length := by
  have hpos : 0 < styleHeader.length := by decide
  refine ⟨fun h => ?_, fun h => ?_⟩
  · rw [List.length_append] at h
    omega
  · by_contra hlt
    have hpre : place <+: before ++ styleHeader := List.prefix_of_prefix_length_le hplace
      (List.prefix_append _ rest) (by omega)
    obtain ⟨part, rfl⟩ := List.prefix_of_prefix_length_le
      (List.prefix_append before styleHeader) hpre h.le
    have hpart : part <+: styleHeader := (List.prefix_append_right_inj before).mp hpre
    have hne : part ≠ [] := by
      rintro rfl
      simp at h
    rcases hline with hnil | hlast
    · exact hne (List.append_eq_nil_iff.mp hnil).2
    · rw [List.getLast?_append, List.getLast?_eq_some_getLast hne, Option.some_or,
        Option.some.injEq] at hlast
      exact newline_notMem_styleHeader (hpart.subset (hlast ▸ List.getLast_mem hne))

lemma not_startsLine_header (before : Text) : ¬ StartsLine (before ++ styleHeader) := by
  have hlast : styleHeader.getLast? = some '\x7b' := by decide
  rintro (hnil | hline)
  · exact absurd (List.append_eq_nil_iff.mp hnil).2 (by decide)
  · rw [List.getLast?_append, hlast] at hline
    exact absurd (Option.some.inj hline) (by decide)

/-- The cut is that of the function, or there is no function to be cut out. -/
lemma cutStylesheet_cases (code : Text) :
    (cutStylesheet code = none ∧ ¬ HasStylesheet code) ∨
      ∃ cut, cutStylesheet code = some cut ∧ IsStylesheetCut code cut := by
  rcases cutAtLine?_cases (by decide : styleHeader ≠ []) code true [] (by simp [StartsLine])
    with ⟨hnone, hno⟩ | ⟨before, rest, hcut, rfl, hfirst⟩
  · refine .inl ⟨by rw [cutStylesheet, hnone], ?_⟩
    rintro ⟨header, closing, hheader, -⟩
    exact hno header (Nat.zero_le _) hheader
  -- the header is found; then a brace is looked for behind all of its text
  · have hheader : IsFirst (LineBegins styleHeader (before ++ rest)) before :=
      hfirst.congr fun other => ⟨And.right, fun h => ⟨Nat.zero_le _, h⟩⟩
    obtain ⟨more, rfl⟩ := (List.prefix_append_right_inj before).mp hheader.holds.2
    -- a line that begins with a brace does not begin inside the header
    have hlater {place : Text} (h : LineBegins ['\x7d'] (before ++ (styleHeader ++ more)) place) :
        (before ++ styleHeader).length ≤ place.length ↔ before.length < place.length := by
      have hpre : place <+: before ++ styleHeader ++ more := by
        rw [List.append_assoc]
        exact h.prefix_text
      exact header_length_le_iff hpre h.1
    have hdrop : (styleHeader ++ more).drop styleHeader.length = more := List.drop_left
    have hbrace := cutAtLine?_cases (List.cons_ne_nil '\x7d' []) more false (before ++ styleHeader)
      (by simp [not_startsLine_header])
    rw [List.append_assoc] at hbrace
    rcases hbrace with ⟨hnone, hno⟩ | ⟨inner, closing, hinner, rfl, hclosing⟩
    · refine .inl ⟨by rw [cutStylesheet, hcut]; dsimp only; rw [hdrop, hnone], ?_⟩
      -- a line with the header that stands later does not help
      rintro ⟨header, closing, hother, hbrace, hlt⟩
      exact hno closing ((hlater hbrace).mpr ((hheader.first _ hother).trans_lt hlt)) hbrace
    · obtain ⟨after, rfl⟩ : ['\x7d'] <+: closing := by
        have := hclosing.holds.2.2
        rwa [← List.append_assoc before, List.append_assoc (before ++ styleHeader),
          List.prefix_append_right_inj, List.prefix_append_right_inj] at this
      refine .inr ⟨⟨before, styleHeader ++ inner ++ ['\x7d'], after⟩, ?_, ?_, hheader,
        styleHeader ++ inner, rfl, ?_⟩
      · rw [cutStylesheet, hcut]
        dsimp only
        rw [hdrop, hinner]
        rfl
      · simp only [List.append_assoc]
      · have hbehind := hclosing.congr fun place => and_congr_left hlater
        rwa [List.append_assoc before] at hbehind

/-- There is only one such cut. -/
lemma IsStylesheetCut.unique {code : Text} {cut cut' : StylesheetCut}
    (h : IsStylesheetCut code cut) (h' : IsStylesheetCut code cut') : cut = cut' := by
  obtain ⟨before, body, after⟩ := cut
  obtain ⟨before', body', after'⟩ := cut'
  obtain ⟨hcode, hheader, inner, rfl, hclosing⟩ := h
  obtain ⟨hcode', hheader', inner', rfl, hclosing'⟩ := h'
  obtain rfl : before = before' := hheader.unique (fun _ => LineBegins.prefix_text) hheader'
  have hinner := hclosing.unique (fun _ hplace => hplace.2.prefix_text) hclosing'
  obtain rfl : inner = inner' := List.append_cancel_left hinner
  dsimp only at hcode hcode'
  rw [← hcode', List.append_cancel_left_eq] at hcode
  rw [hcode]

lemma IsStylesheetCut.hasStylesheet {code : Text} {cut : StylesheetCut}
    (h : IsStylesheetCut code cut) : HasStylesheet code := by
  obtain ⟨inner, -, hclosing⟩ := h.closing
  exact ⟨cut.before, cut.before ++ inner, h.header.holds, hclosing.holds.2, hclosing.holds.1⟩

/-- What is cut out is the function. -/
theorem cutStylesheet_eq_some_iff {code : Text} {cut : StylesheetCut} :
    cutStylesheet code = some cut ↔ IsStylesheetCut code cut := by
  rcases cutStylesheet_cases code with ⟨hnone, hno⟩ | ⟨found, hfound, hcut⟩
  · rw [hnone]
    exact ⟨fun h => absurd h (by simp), fun h => absurd h.hasStylesheet hno⟩
  · rw [hfound, Option.some.injEq]
    exact ⟨fun h => h ▸ hcut, fun h => hcut.unique h⟩

theorem cutStylesheet_isSome_iff {code : Text} :
    (cutStylesheet code).isSome = true ↔ HasStylesheet code := by
  rcases cutStylesheet_cases code with ⟨hnone, hno⟩ | ⟨cut, hsome, hcut⟩
  · simp [hnone, hno]
  · simp [hsome, hcut.hasStylesheet]

/-! ### The id -/

/-- A single or a double quote. -/
def IsQuote (c : Char) : Prop := c = '\'' ∨ c = '"'

/-- An id is assigned: the name of the property, an equals sign with ASCII blanks around it, and the
id between two quotes of one kind, with no quote of either kind in it. -/
inductive IsAssignment (id : Text) : Text → Prop where
  | intro {blanks blanks' : Text} {quote : Char}
      (hblanks : ∀ c ∈ blanks, Text.isAsciiBlank c = true)
      (hblanks' : ∀ c ∈ blanks', Text.isAsciiBlank c = true)
      (hquote : IsQuote quote) (hid : ∀ c ∈ id, ¬ IsQuote c) :
      IsAssignment id (("style.id" : Text) ++ blanks ++ '=' :: blanks' ++ quote :: id ++ [quote])

/-- At a place of the text that no word character stands before, an id is assigned. -/
def AssignsId (text place id : Text) : Prop :=
  endsWithWord place = false ∧ ∃ assignment, IsAssignment id assignment ∧
    place ++ assignment <+: text

/-- Blanks are passed over up to a character that is none. -/
lemma dropWhile_blanks_iff {text rest : Text} {c : Char} (hc : Text.isAsciiBlank c = false) :
    text.dropWhile Text.isAsciiBlank = c :: rest ↔
      ∃ blanks, (∀ b ∈ blanks, Text.isAsciiBlank b = true) ∧ text = blanks ++ c :: rest := by
  constructor
  · intro h
    refine ⟨text.takeWhile Text.isAsciiBlank, fun b hb => List.mem_takeWhile_imp hb, ?_⟩
    rw [← h, List.takeWhile_append_dropWhile]
  · rintro ⟨blanks, hblanks, rfl⟩
    rw [List.dropWhile_append_of_pos hblanks, List.dropWhile_cons_of_neg (by simp [hc])]

lemma IsQuote.isAsciiBlank {c : Char} (h : IsQuote c) : Text.isAsciiBlank c = false := by
  rcases h with rfl | rfl <;> decide

/-- A quoted id is read up to the first quote, which must be the one that it began with. -/
lemma quotedId_iff {rest id : Text} {quote : Char} (hquote : IsQuote quote) :
    (rest.takeWhile fun c => !(c == '\'' || c == '"')) = id ∧
        (rest.drop id.length).head? = some quote ↔
      (∀ c ∈ id, ¬ IsQuote c) ∧ id ++ [quote] <+: rest := by
  constructor
  · rintro ⟨rfl, hhead⟩
    refine ⟨fun c hc => by simpa [IsQuote] using List.mem_takeWhile_imp hc, ?_⟩
    obtain ⟨more, hmore⟩ := List.head?_eq_some_iff.mp hhead
    refine ⟨more, ?_⟩
    rw [List.append_assoc, List.singleton_append, ← hmore]
    exact List.prefix_iff_eq_append.mp (List.takeWhile_prefix _)
  · rintro ⟨hid, more, rfl⟩
    have hstop : (!(quote == '\'' || quote == '"')) = false := by
      simpa [IsQuote, or_iff_not_imp_left] using hquote
    rw [List.append_assoc, List.singleton_append,
      List.takeWhile_append_of_pos fun c hc => by simpa [IsQuote] using hid c hc,
      List.takeWhile_cons_of_neg (by simp [hstop]), List.append_nil, List.drop_left]
    exact ⟨rfl, rfl⟩

/-- What is read as an id stands in an assignment that begins the text. -/
lemma exists_assignment_of_styleIdHere? {text id : Text} (h : styleIdHere? text = some id) :
    ∃ assignment, IsAssignment id assignment ∧ assignment <+: text := by
  rw [styleIdHere?] at h
  dsimp only at h
  -- the four conditions of the reader in turn; where one fails, nothing is read
  split at h
  · next hproperty =>
      obtain ⟨behind, rfl⟩ := List.isPrefixOf_iff_prefix.mp hproperty
      rw [List.drop_left] at h
      split at h
      · next rest hsign =>
          obtain ⟨blanks, hblanks, rfl⟩ := (dropWhile_blanks_iff (by decide)).mp hsign
          split at h
          · next quote quoted hopen =>
              split at h
              · next hquote =>
                  split at h
                  · next hclose =>
                      obtain rfl := Option.some.inj h
                      obtain ⟨hid, more, hmore⟩ := (quotedId_iff hquote).mp ⟨rfl, hclose⟩
                      obtain ⟨blanks', hblanks', rfl⟩ :=
                        (dropWhile_blanks_iff (IsQuote.isAsciiBlank hquote)).mp hopen
                      refine ⟨_, .intro hblanks hblanks' hquote hid, more, ?_⟩
                      simp only [List.append_assoc, List.cons_append] at hmore ⊢
                      rw [hmore]
                  · exact absurd h (by simp)
              · exact absurd h (by simp)
          · exact absurd h (by simp)
      · exact absurd h (by simp)
  · exact absurd h (by simp)

/-- An assignment is read as its id, whatever follows it. -/
lemma IsAssignment.styleIdHere?_append {id assignment : Text} (h : IsAssignment id assignment)
    (more : Text) : styleIdHere? (assignment ++ more) = some id := by
  obtain @⟨blanks, blanks', quote, hblanks, hblanks', hquote, hid⟩ := h
  have hsign := (dropWhile_blanks_iff (by decide)).mpr
    ⟨blanks, hblanks, (rfl : blanks ++ '=' :: (blanks' ++ quote :: (id ++ [quote] ++ more)) = _)⟩
  have hopen := (dropWhile_blanks_iff hquote.isAsciiBlank).mpr
    ⟨blanks', hblanks', (rfl : blanks' ++ quote :: (id ++ [quote] ++ more) = _)⟩
  have hread := (quotedId_iff hquote).mpr ⟨hid, List.prefix_append (id ++ [quote]) more⟩
  have htext :
      (("style.id" : Text) ++ blanks ++ '=' :: blanks' ++ quote :: id ++ [quote]) ++ more =
        ("style.id" : Text) ++
          (blanks ++ '=' :: (blanks' ++ quote :: (id ++ [quote] ++ more))) := by
    simp only [List.append_assoc, List.cons_append]
  rw [htext, styleIdHere?]
  dsimp only
  rw [if_pos (List.isPrefixOf_iff_prefix.mpr (List.prefix_append _ _)), List.drop_left]
  simp only [hsign, hopen]
  rw [if_pos (show quote = '\'' ∨ quote = '"' from hquote), hread.1, if_pos hread.2]

/-- An id is read exactly where one is assigned. -/
lemma styleIdHere?_eq_some_iff {text id : Text} :
    styleIdHere? text = some id ↔
      ∃ assignment, IsAssignment id assignment ∧ assignment <+: text := by
  constructor
  · exact exists_assignment_of_styleIdHere?
  · rintro ⟨assignment, hassignment, more, rfl⟩
    exact hassignment.styleIdHere?_append more

lemma IsAssignment.length_pos {id assignment : Text} (h : IsAssignment id assignment) :
    0 < assignment.length := by
  obtain ⟨_, _, _, _⟩ := h
  simp only [List.length_append, List.length_singleton]
  omega

lemma AssignsId.prefix_text {text place id : Text} (h : AssignsId text place id) :
    place <+: text := by
  obtain ⟨-, assignment, -, hpre⟩ := h
  exact (List.prefix_append place assignment).trans hpre

lemma assignsId_iff {lead text id : Text} :
    AssignsId (lead ++ text) lead id ↔ endsWithWord lead = false ∧ styleIdHere? text = some id := by
  rw [AssignsId, styleIdHere?_eq_some_iff]
  simp only [List.prefix_append_right_inj]

/-- At one place, one id is assigned at most. -/
lemma AssignsId.unique {text place id id' : Text} (h : AssignsId text place id)
    (h' : AssignsId text place id') : id = id' := by
  obtain ⟨rest, rfl⟩ := h.prefix_text
  rw [assignsId_iff] at h h'
  exact Option.some.inj (h.2.symm.trans h'.2)

lemma endsWithWord_concat (lead : Text) (c : Char) :
    endsWithWord (lead ++ [c]) = Text.isWordChar c := by
  rw [endsWithWord, List.getLast?_concat]

/-- A search finds the id at the first place behind `lead` where one is assigned, or there is no
such place. -/
lemma findStyleId?_cases (text lead : Text) :
    (findStyleId? (endsWithWord lead) text = none ∧
      ∀ place, lead.length ≤ place.length → ¬ ∃ id, AssignsId (lead ++ text) place id) ∨
    ∃ place id, findStyleId? (endsWithWord lead) text = some id ∧
      AssignsId (lead ++ text) place id ∧
      IsFirst (fun place => lead.length ≤ place.length ∧ ∃ id, AssignsId (lead ++ text) place id)
        place := by
  induction text generalizing lead with
  | nil =>
      refine .inl ⟨rfl, ?_⟩
      rintro place hplace ⟨id, -, assignment, hassignment, hpre⟩
      have hlength := hpre.length_le
      have hpos := hassignment.length_pos
      rw [List.append_nil, List.length_append] at hlength
      omega
  | cons c rest ih =>
      by_cases hhere : ∃ id, AssignsId (lead ++ c :: rest) lead id
      · obtain ⟨id, hid⟩ := hhere
        obtain ⟨hword, hread⟩ := assignsId_iff.mp hid
        refine .inr ⟨lead, id, ?_, hid, ⟨le_rfl, id, hid⟩, fun other hother => hother.1⟩
        rw [findStyleId?, hword, if_neg (by decide), hread]
      · have hread : (if endsWithWord lead then none else styleIdHere? (c :: rest)) = none := by
          split
          · rfl
          · next hword =>
              rw [Option.eq_none_iff_forall_not_mem]
              exact fun id hid => hhere ⟨id, assignsId_iff.mpr ⟨by simpa using hword, hid⟩⟩
        -- no id here: the search goes on behind the character, which is now part of the lead
        have hnext := ih (lead ++ [c])
        rw [List.append_assoc, List.singleton_append, endsWithWord_concat] at hnext
        have hbehind := place_behind_iff
          (P := fun place => ∃ id, AssignsId (lead ++ c :: rest) place id)
          (fun _ ⟨_, hid⟩ => hid.prefix_text) hhere
        rw [findStyleId?, hread]
        rcases hnext with ⟨hnone, hno⟩ | ⟨place, id, hfound, hid, hfirst⟩
        · refine .inl ⟨hnone, fun place hplace hassigns => ?_⟩
          exact hno place ((hbehind place).mpr ⟨hplace, hassigns⟩).1 hassigns
        · exact .inr ⟨place, id, hfound, hid, hfirst.congr hbehind⟩

/-- The id is assigned at the first place of the text where an id is assigned at all. -/
def IsFirstId (text id : Text) : Prop :=
  ∃ place, IsFirst (fun place => ∃ other, AssignsId text place other) place ∧
    AssignsId text place id

/-- The id that is found is the first one. -/
theorem styleId?_eq_some_iff {body id : Text} : styleId? body = some id ↔ IsFirstId body id := by
  rw [styleId?]
  rcases findStyleId?_cases body [] with ⟨hnone, hno⟩ | ⟨place, found, hfound, hassigns, hfirst⟩
  · have hsearch : findStyleId? false body = none := hnone
    rw [hsearch]
    refine ⟨fun h => absurd h (by simp), ?_⟩
    rintro ⟨place, -, hid⟩
    exact absurd ⟨id, hid⟩ (hno place (Nat.zero_le _))
  · have hsearch : findStyleId? false body = some found := hfound
    -- every place is behind the empty lead, and so the place is the first one of all
    have hplace : IsFirst (fun place => ∃ other, AssignsId body place other) place :=
      hfirst.congr fun other => ⟨And.right, fun h => ⟨Nat.zero_le _, h⟩⟩
    rw [hsearch, Option.some.injEq]
    constructor
    · rintro rfl
      exact ⟨place, hplace, hassigns⟩
    · rintro ⟨other, hother, hid⟩
      obtain rfl := hplace.unique (fun _ ⟨_, h⟩ => h.prefix_text) hother
      exact hassigns.unique hid

/-- Names that a word character stands before, second equals signs and quotes of two kinds are
passed over. -/
example : styleId? "mystyle.id = 'a'; style.id == 'b'; style.id = 'c\"; style.id\t= 'd'" =
    some "d".toList := by
  decide +kernel

/-! ### What is read -/

lemma hasAddCss_ofCode (code : Text) (withHash : Bool) :
    (Stylesheet.ofCode code withHash).hasAddCss = (cutStylesheet code).isSome := by
  rw [Stylesheet.ofCode]
  cases cutStylesheet code with
  | none => rfl
  | some cut => cases hid : styleId? cut.body <;> simp [hid]

lemma cssId_ofCode (code : Text) (withHash : Bool) :
    (Stylesheet.ofCode code withHash).cssId =
      (cutStylesheet code).bind fun cut => styleId? cut.body := by
  rw [Stylesheet.ofCode]
  cases cutStylesheet code with
  | none => rfl
  | some cut => cases hid : styleId? cut.body <;> simp [hid]

/-- **The stylesheet of a component**. There is a stylesheet just if a line begins with the header
of its function and a later line with a brace. Then the function is the only one that runs from
the first such header up to the first such brace behind it, and the id is the one at the first place
in it where an id is assigned. What stands outside of the function does not matter to the id. -/
theorem readStylesheet_finds (code : Text) (withHash : Bool) :
    ∃ sheet, (readStylesheet code withHash).result = .ok sheet ∧
      (sheet.hasAddCss = true ↔ HasStylesheet code) ∧
      (sheet.hasAddCss = false → sheet.cssId = none) ∧
      (sheet.hasAddCss = true → ∃ cut, cutStylesheet code = some cut ∧
        (∀ other, IsStylesheetCut code other ↔ other = cut) ∧
        (∀ id, sheet.cssId = some id ↔ IsFirstId cut.body id) ∧
        ∀ code' cut' withHash', IsStylesheetCut code' cut' → cut'.body = cut.body →
          (readStylesheet code' withHash').result.map (·.cssId) = .ok sheet.cssId) := by
  refine ⟨_, result_readStylesheet code withHash, ?_, fun hsheet => ?_, fun hsheet => ?_⟩
  · rw [hasAddCss_ofCode, cutStylesheet_isSome_iff]
  · rw [hasAddCss_ofCode, Option.isSome_eq_false_iff, Option.isNone_iff_eq_none] at hsheet
    rw [cssId_ofCode, hsheet]
    rfl
  · rw [hasAddCss_ofCode, Option.isSome_iff_exists] at hsheet
    obtain ⟨cut, hcut⟩ := hsheet
    refine ⟨cut, hcut, fun other => ?_, fun id => ?_, fun code' cut' withHash' hcut' hbody => ?_⟩
    · rw [← cutStylesheet_eq_some_iff, hcut, Option.some.injEq, eq_comm]
    · rw [cssId_ofCode, hcut, Option.bind_some, styleId?_eq_some_iff]
    · rw [result_readStylesheet, cssId_ofCode, hcut, Except.map, cssId_ofCode,
        cutStylesheet_eq_some_iff.mpr hcut', Option.bind_some, Option.bind_some, hbody]

end HotReload
