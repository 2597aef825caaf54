import Mathlib.Data.List.TakeWhile
import Mathlib.Data.Nat.Find
import HotReload.Proofs.Pieces
import HotReload.Splice
/-!
The statement that a splice replaces: in the last piece of the code that ends with a
semicolon and holds the keyword, from the first keyword on.

* `HasExport` and `IsLastExport` say this without a reading of the code.
* `lastExport?_of_isLastExport` follows the reading from left to right through the pieces
  before the statement (`exportSpans_behind_pieces`), through the statement
  (`exportSpans_of_isFirstOfPiece`) and through what is behind it (`exportSpans_eq_nil`).
* `lastExport?_eq_some_iff`: the reading finds exactly that statement.
* `splice_replaces_last_export`: what a splice gives, for every renderer.
-/

namespace HotReload

/-- A keyword in the code is followed later by a semicolon. -/
def HasExport (code : Text) : Prop :=
  ∃ lead component rest, code = lead ++ exportKeyword ++ component ++ ';' :: rest

/-- The statement is the one from the first keyword of the last piece that ends with a
semicolon and holds the keyword. A line end just before that keyword belongs to it. -/
structure IsLastExport (code : Text) (s : ExportStatement) : Prop where
  code_eq : s.code = code
  component_piece : ';' ∉ s.component
  newline_iff : s.newline = true ↔ (s.before ++ s.lineEnd).getLast? = some '\n'
  first_of_piece : ∃ pieces lead, s.before = pieces ++ lead ∧
    (pieces = [] ∨ pieces.getLast? = some ';') ∧ ';' ∉ lead ∧
    ∀ xs ys, lead ++ s.lineEnd ++ exportKeyword ++ s.component = xs ++ exportKeyword ++ ys →
      (lead ++ s.lineEnd).length ≤ xs.length
  last : ¬ HasExport s.after

/-! ### The keyword -/

lemma semicolon_notMem_keyword : ';' ∉ exportKeyword := by decide

lemma exists_keyword_eq_cons : ∃ tail, exportKeyword = 'e' :: tail :=
  ⟨exportKeyword.tail, by decide⟩

lemma semicolon_notMem_lineEndIf (newline : Bool) : ';' ∉ lineEndIf newline := by
  cases newline <;> decide

/-- A component is read exactly where a statement begins. -/
lemma exportComponent?_eq_some_iff {text component : Text} :
    exportComponent? text = some component ↔
      ';' ∉ component ∧ ∃ rest, text = exportKeyword ++ component ++ ';' :: rest := by
  rw [exportComponent?]
  constructor
  · intro h
    split at h
    · next hkeyword =>
        obtain ⟨behind, rfl⟩ := List.isPrefixOf_iff_prefix.mp hkeyword
        rw [List.drop_left] at h
        dsimp only at h
        split at h
        -- something is left behind the component, and it begins with the semicolon
        · next hlength =>
            obtain rfl := Option.some.inj h
            refine ⟨fun hmem => ?_, ?_⟩
            · simpa using List.mem_takeWhile_imp hmem
            · have hsplit := List.takeWhile_append_dropWhile (p := (· != ';')) (l := behind)
              cases hdrop : behind.dropWhile (· != ';') with
              | nil => rw [hdrop, List.append_nil] at hsplit; rw [hsplit] at hlength; omega
              | cons c rest =>
                  have hc : c = ';' := by
                    have := List.head?_dropWhile_not (· != ';') behind
                    rw [hdrop] at this
                    simpa using this
                  refine ⟨rest, ?_⟩
                  rw [hdrop, hc] at hsplit
                  rw [List.append_assoc, hsplit]
        · exact absurd h (by simp)
    · exact absurd h (by simp)
  · rintro ⟨hcomponent, rest, rfl⟩
    have htake : (component ++ ';' :: rest).takeWhile (· != ';') = component := by
      rw [List.takeWhile_append_of_pos (fun c hc => by
        simpa using fun heq : c = ';' => hcomponent (heq ▸ hc))]
      simp
    rw [if_pos (by rw [List.append_assoc]; exact
      List.isPrefixOf_iff_prefix.mpr (List.prefix_append _ _)), List.append_assoc,
      List.drop_left]
    dsimp only
    rw [htake, if_pos (by simp)]

/-- A statement is read exactly where it begins. -/
lemma exportHere?_eq_some_iff {start : Nat} {text : Text} {span : ExportSpan} :
    exportHere? start text = some span ↔
      span.start = start ∧ ';' ∉ span.component ∧ ∃ rest, text = span.text ++ rest := by
  constructor
  · intro h
    rw [exportHere?.eq_def] at h
    split at h
    · next rest =>
        obtain ⟨component, hcomponent, rfl⟩ := Option.map_eq_some_iff.mp h
        obtain ⟨hpiece, rest, rfl⟩ := exportComponent?_eq_some_iff.mp hcomponent
        exact ⟨rfl, hpiece, rest, by simp [ExportSpan.text, lineEndIf]⟩
    · obtain ⟨component, hcomponent, rfl⟩ := Option.map_eq_some_iff.mp h
      obtain ⟨hpiece, rest, rfl⟩ := exportComponent?_eq_some_iff.mp hcomponent
      exact ⟨rfl, hpiece, rest, by simp [ExportSpan.text, lineEndIf]⟩
  · obtain ⟨place, newline, component⟩ := span
    rintro ⟨rfl, hpiece, rest, rfl⟩
    have hread := exportComponent?_eq_some_iff.mpr ⟨hpiece, rest, rfl⟩
    have htext : (ExportSpan.mk place newline component).text ++ rest =
        lineEndIf newline ++ (exportKeyword ++ component ++ ';' :: rest) := by
      simp [ExportSpan.text]
    rw [htext]
    -- a line end in the span is the line end in the text, and a keyword begins with none
    cases newline with
    | true =>
        show (exportComponent? (exportKeyword ++ component ++ ';' :: rest)).map _ = _
        rw [hread]
        rfl
    | false =>
        obtain ⟨tail, hkeyword⟩ := exists_keyword_eq_cons
        rw [hkeyword] at hread ⊢
        show (exportComponent? ('e' :: tail ++ component ++ ';' :: rest)).map _ = _
        rw [hread]
        rfl

/-! ### Reading on -/

/-- A reading goes on behind what it has to skip. -/
lemma exportSpans_skip (start skip : Nat) (text : Text) :
    exportSpans start skip text = exportSpans (start + skip) 0 (text.drop skip) := by
  induction text generalizing start skip with
  | nil => cases skip <;> simp [exportSpans]
  | cons c rest ih =>
      cases skip with
      | zero => rfl
      | succ skip =>
          rw [exportSpans, ih, List.drop_succ_cons]
          congr 1
          omega

/-- Where no statement begins, a reading goes on at the next character. -/
lemma exportSpans_of_none {start : Nat} {c : Char} {rest : Text}
    (h : exportHere? start (c :: rest) = none) :
    exportSpans start 0 (c :: rest) = exportSpans (start + 1) 0 rest := by
  rw [exportSpans, h]

/-- A reading takes the statement that begins here and goes on behind it. -/
lemma exportSpans_of_statement {span : ExportSpan} (rest : Text)
    (hpiece : ';' ∉ span.component) :
    exportSpans span.start 0 (span.text ++ rest) = span :: exportSpans span.stop 0 rest := by
  have hread : exportHere? span.start (span.text ++ rest) = some span :=
    exportHere?_eq_some_iff.mpr ⟨rfl, hpiece, rest, rfl⟩
  have hsize : span.size = span.text.length := rfl
  cases htext : span.text ++ rest with
  | nil => exact absurd (List.append_eq_nil_iff.mp htext).1 (by simp [ExportSpan.text])
  | cons c more =>
      have hpos : 0 < span.text.length := by
        rw [ExportSpan.text, List.length_append, List.length_singleton]
        omega
      have hmore : more.drop (span.size - 1) = rest := by
        have hdrop : (c :: more).drop span.size = rest := by
          rw [← htext, hsize, List.drop_left]
        rwa [show span.size = (span.size - 1) + 1 by omega, List.drop_succ_cons] at hdrop
      rw [htext] at hread
      rw [exportSpans, hread]
      dsimp only
      rw [exportSpans_skip, hmore]
      congr 2
      rw [ExportSpan.stop]
      omega

/-! ### Pieces with and without a statement -/

lemma HasExport.append_left {text : Text} (lead : Text) (h : HasExport text) :
    HasExport (lead ++ text) := by
  obtain ⟨before, component, rest, rfl⟩ := h
  exact ⟨lead ++ before, component, rest, by simp⟩

/-- A keyword that is followed by a semicolon lies in the first piece or behind it. -/
lemma hasExport_append_cons_iff {piece rest : Text} :
    HasExport (piece ++ ';' :: rest) ↔ exportKeyword <:+: piece ∨ HasExport rest := by
  constructor
  · rintro ⟨lead, component, behind, h⟩
    rw [List.append_assoc] at h
    rcases word_before_or_behind semicolon_notMem_keyword h with
      ⟨more, hpiece, _⟩ | ⟨more, hrest, _⟩
    · exact .inl ⟨lead, more, hpiece.symm⟩
    · exact .inr ⟨more, component, behind, by rw [hrest]; simp only [List.append_assoc]⟩
  · rintro (⟨lead, component, rfl⟩ | h)
    · exact ⟨lead, component, rest, rfl⟩
    · rw [List.append_cons]
      exact h.append_left (piece ++ [';'])

lemma not_hasExport_of_notMem {piece : Text} (h : ';' ∉ piece) : ¬ HasExport piece := by
  rintro ⟨lead, component, rest, rfl⟩
  exact h (by simp)

/-- Where no keyword is followed by a semicolon, there is no statement. -/
lemma exportSpans_eq_nil {text : Text} (start : Nat) (h : ¬ HasExport text) :
    exportSpans start 0 text = [] := by
  induction text generalizing start with
  | nil => rfl
  | cons c rest ih =>
      have hnone : exportHere? start (c :: rest) = none := by
        rw [Option.eq_none_iff_forall_not_mem]
        intro span hspan
        obtain ⟨-, -, behind, htext⟩ := exportHere?_eq_some_iff.mp hspan
        refine h ⟨lineEndIf span.newline, span.component, behind, ?_⟩
        rw [htext, ExportSpan.text]
        simp
      rw [exportSpans_of_none hnone]
      exact ih (start + 1) fun hrest => h (hrest.append_left [c])

/-- A statement that begins with a piece takes all of it. -/
lemma exportHere?_eq_none {piece : Text} (start : Nat) (rest : Text) (hpiece : ';' ∉ piece)
    (h : ∀ newline component, piece ≠ lineEndIf newline ++ exportKeyword ++ component) :
    exportHere? start (piece ++ ';' :: rest) = none := by
  rw [Option.eq_none_iff_forall_not_mem]
  intro span hspan
  obtain ⟨-, hcomponent, behind, htext⟩ := exportHere?_eq_some_iff.mp hspan
  have hstatement : ';' ∉ lineEndIf span.newline ++ exportKeyword ++ span.component := by
    simp only [List.mem_append, not_or]
    exact ⟨⟨semicolon_notMem_lineEndIf _, semicolon_notMem_keyword⟩, hcomponent⟩
  rw [ExportSpan.text, List.append_assoc _ [';'], List.singleton_append] at htext
  exact h _ _ (append_cons_inj_left hpiece hstatement htext).1

/-- A reading passes over a piece without a keyword. -/
lemma exportSpans_of_not_infix {piece : Text} (start : Nat) (rest : Text)
    (hpiece : ';' ∉ piece) (h : ¬ exportKeyword <:+: piece) :
    exportSpans start 0 (piece ++ ';' :: rest) =
      exportSpans (start + piece.length + 1) 0 rest := by
  have hnone {piece : Text} (start : Nat) (hpiece : ';' ∉ piece)
      (h : ¬ exportKeyword <:+: piece) :
      exportHere? start (piece ++ ';' :: rest) = none :=
    exportHere?_eq_none start rest hpiece fun newline component hstatement =>
      h ⟨lineEndIf newline, component, hstatement.symm⟩
  induction piece generalizing start with
  | nil => exact exportSpans_of_none (hnone start hpiece h)
  | cons c piece ih =>
      have hstep := exportSpans_of_none (hnone start hpiece h)
      have hrest := ih (start + 1) (fun hmem => hpiece (List.mem_cons_of_mem _ hmem))
        fun hin => h (hin.trans (List.suffix_cons c piece).isInfix)
      rw [show start + (c :: piece).length + 1 = start + 1 + piece.length + 1 by
        rw [List.length_cons]; omega, ← hrest]
      exact hstep

/-- What makes a statement the first one of its piece: the piece holds no keyword before
its own, and a line end before the keyword belongs to it. -/
structure IsFirstOfPiece (lead : Text) (newline : Bool) (component : Text) : Prop where
  lead_piece : ';' ∉ lead
  component_piece : ';' ∉ component
  line_end : newline = false → lead.getLast? ≠ some '\n'
  first : ∀ xs ys, lead ++ lineEndIf newline ++ exportKeyword ++ component =
    xs ++ exportKeyword ++ ys → (lead ++ lineEndIf newline).length ≤ xs.length

lemma IsFirstOfPiece.tail {c : Char} {lead : Text} {newline : Bool} {component : Text}
    (h : IsFirstOfPiece (c :: lead) newline component) :
    IsFirstOfPiece lead newline component where
  lead_piece := fun hmem => h.lead_piece (List.mem_cons_of_mem _ hmem)
  component_piece := h.component_piece
  line_end := by
    intro hnewline hlast
    refine h.line_end hnewline ?_
    rw [List.getLast?_cons, hlast]
    rfl
  first := by
    intro xs ys hxs
    have := h.first (c :: xs) ys (by simp only [List.cons_append, hxs])
    simpa using this

/-- No statement begins before the first keyword of a piece. -/
lemma IsFirstOfPiece.ne_statement {c : Char} {lead : Text} {newline : Bool}
    {component : Text} (h : IsFirstOfPiece (c :: lead) newline component) (other : Bool)
    (component' : Text) :
    c :: lead ++ lineEndIf newline ++ exportKeyword ++ component ≠
      lineEndIf other ++ exportKeyword ++ component' := by
  intro hstatement
  have hlength := h.first _ _ hstatement
  cases other with
  | false => simp [lineEndIf] at hlength
  | true =>
      have hempty : lead = [] ∧ newline = false := by
        cases newline <;> cases lead <;> simp_all [lineEndIf]
      obtain ⟨rfl, rfl⟩ := hempty
      have hc : c = '\n' := (List.cons.inj hstatement).1
      exact h.line_end rfl (by rw [hc]; rfl)

/-- A reading goes to the first statement of a piece, takes it and goes on behind it. -/
lemma exportSpans_of_isFirstOfPiece {lead : Text} {newline : Bool} {component : Text}
    (start : Nat) (rest : Text) (h : IsFirstOfPiece lead newline component) :
    exportSpans start 0 (lead ++ (⟨start + lead.length, newline, component⟩ : ExportSpan).text
        ++ rest) =
      ⟨start + lead.length, newline, component⟩ ::
        exportSpans (⟨start + lead.length, newline, component⟩ : ExportSpan).stop 0 rest := by
  induction lead generalizing start with
  | nil =>
      exact @exportSpans_of_statement ⟨start, newline, component⟩ rest h.component_piece
  | cons c lead ih =>
      have hpiece : ';' ∉ c :: lead ++ lineEndIf newline ++ exportKeyword ++ component := by
        simp only [List.mem_append, not_or]
        exact ⟨⟨⟨h.lead_piece, semicolon_notMem_lineEndIf _⟩, semicolon_notMem_keyword⟩,
          h.component_piece⟩
      -- no statement begins at a character before the first one
      have hnone := exportHere?_eq_none start rest hpiece h.ne_statement
      have htext : c :: lead ++ (⟨start + (c :: lead).length, newline, component⟩ :
          ExportSpan).text ++ rest =
          c :: (lead ++ (⟨start + 1 + lead.length, newline, component⟩ : ExportSpan).text
            ++ rest) := by
        simp [ExportSpan.text]
      have hstart : start + (c :: lead).length = start + 1 + lead.length := by
        rw [List.length_cons]
        omega
      rw [htext, exportSpans_of_none, ih (start + 1) h.tail, hstart]
      simpa [ExportSpan.text] using hnone

/-- A piece that holds the keyword has a first statement. -/
lemma exists_isFirstOfPiece {piece : Text} (hpiece : ';' ∉ piece)
    (h : exportKeyword <:+: piece) :
    ∃ lead newline component, piece = lead ++ lineEndIf newline ++ exportKeyword ++ component ∧
      IsFirstOfPiece lead newline component := by
  classical
  have hplace : ∃ n, ∃ xs ys : Text, piece = xs ++ exportKeyword ++ ys ∧ xs.length = n := by
    obtain ⟨xs, ys, hxs⟩ := h
    exact ⟨xs.length, xs, ys, hxs.symm, rfl⟩
  obtain ⟨xs, component, rfl, hlength⟩ := Nat.find_spec hplace
  have hfirst : ∀ us vs, xs ++ exportKeyword ++ component = us ++ exportKeyword ++ vs →
      xs.length ≤ us.length := fun us vs huv =>
    hlength ▸ Nat.find_min' hplace ⟨us, vs, huv, rfl⟩
  simp only [List.mem_append, not_or] at hpiece
  obtain ⟨⟨hxs, -⟩, hcomponent⟩ := hpiece
  by_cases hline : xs.getLast? = some '\n'
  · obtain ⟨lead, rfl⟩ := List.getLast?_eq_some_iff.mp hline
    refine ⟨lead, true, component, rfl, ?_, hcomponent, by simp, hfirst⟩
    exact fun hmem => hxs (List.mem_append_left _ hmem)
  · refine ⟨xs, false, component, by simp [lineEndIf], hxs, hcomponent, fun _ => hline, ?_⟩
    simpa [lineEndIf] using hfirst

/-! ### The last statement -/

/-- The reading of a piece that ends with a semicolon stops at the semicolon. -/
lemma exportSpans_behind_piece {piece : Text} (start : Nat) (rest : Text)
    (hpiece : ';' ∉ piece) :
    ∃ spans, exportSpans start 0 (piece ++ ';' :: rest) =
      spans ++ exportSpans (start + piece.length + 1) 0 rest := by
  by_cases h : exportKeyword <:+: piece
  · obtain ⟨lead, newline, component, rfl, hfirst⟩ := exists_isFirstOfPiece hpiece h
    have hread := exportSpans_of_isFirstOfPiece start rest hfirst
    refine ⟨[⟨start + lead.length, newline, component⟩], ?_⟩
    simp only [ExportSpan.stop, ExportSpan.size, ExportSpan.text, List.append_assoc,
      List.singleton_append, List.length_append, List.length_singleton,
      Nat.add_assoc] at hread ⊢
    exact hread
  · exact ⟨[], exportSpans_of_not_infix start rest hpiece h⟩

/-- The reading of pieces that end with semicolons stops behind the last of them. -/
lemma exportSpans_behind_pieces {pieces : Text} (start : Nat) (rest : Text)
    (h : pieces = [] ∨ pieces.getLast? = some ';') :
    ∃ spans, exportSpans start 0 (pieces ++ rest) =
      spans ++ exportSpans (start + pieces.length) 0 rest := by
  induction pieces using pieceInduction ';' generalizing start with
  | last piece hpiece =>
      rcases h with rfl | hlast
      · exact ⟨[], rfl⟩
      · exact absurd (List.mem_of_getLast? hlast) hpiece
  | more piece pieces hpiece ih =>
      have hend : pieces = [] ∨ pieces.getLast? = some ';' := by
        rcases h with hnil | hlast
        · exact absurd hnil (by simp)
        · cases pieces with
          | nil => exact .inl rfl
          | cons c pieces => exact .inr (by simpa using hlast)
      obtain ⟨spans, hspans⟩ := exportSpans_behind_piece start (pieces ++ rest) hpiece
      obtain ⟨more, hmore⟩ := ih (start + piece.length + 1) hend
      refine ⟨spans ++ more, ?_⟩
      rw [List.append_assoc, List.cons_append, hspans, hmore, List.append_assoc]
      congr 3
      rw [List.length_append, List.length_cons]
      omega

/-- The code around a statement, from its place. -/
lemma cut_append (before after : Text) (newline : Bool) (component : Text) :
    ExportSpan.cut (before ++ (⟨before.length, newline, component⟩ : ExportSpan).text ++ after)
      ⟨before.length, newline, component⟩ = ⟨before, newline, component, after⟩ := by
  rw [ExportSpan.cut]
  congr 1
  · rw [List.append_assoc]
    exact List.take_left
  · rw [ExportSpan.stop, ExportSpan.size, ← List.length_append]
    exact List.drop_left

/-- The reading ends with the statement in the last piece that holds the keyword. -/
lemma lastExport?_of_isLastExport {code : Text} {s : ExportStatement}
    (h : IsLastExport code s) : lastExport? code = some s := by
  obtain ⟨hcode, hcomponent, hnewline, ⟨pieces, lead, hbefore, hend, hlead, hfirst⟩, hlast⟩ := h
  obtain ⟨before, newline, component, after⟩ := s
  dsimp only [ExportStatement.lineEnd] at *
  have hpiece : IsFirstOfPiece lead newline component := by
    refine ⟨hlead, hcomponent, ?_, hfirst⟩
    rintro rfl hline
    exact absurd (hnewline.mpr (by simp [lineEndIf, hbefore, hline])) (by decide)
  -- three parts of the reading: the pieces before, the statement itself, and nothing behind it
  obtain ⟨spans, hspans⟩ := exportSpans_behind_pieces 0
    (lead ++ (⟨before.length, newline, component⟩ : ExportSpan).text ++ after) hend
  have hstart : 0 + pieces.length + lead.length = before.length := by
    rw [hbefore, List.length_append, Nat.zero_add]
  have hstatement := exportSpans_of_isFirstOfPiece (0 + pieces.length) after hpiece
  rw [hstart] at hstatement
  rw [hstatement, exportSpans_eq_nil _ hlast, ← List.append_assoc, ← List.append_assoc,
    ← hbefore] at hspans
  have hcode' : code =
      before ++ (⟨before.length, newline, component⟩ : ExportSpan).text ++ after := by
    rw [← hcode, ExportStatement.code, ExportStatement.lineEnd, ExportSpan.text]
    simp only [List.append_assoc]
  rw [lastExport?, hcode', hspans, List.getLast?_concat, Option.map_some, cut_append]

lemma getLast?_append_semicolon_cons (piece text : Text) :
    (piece ++ ';' :: text).getLast? = some (text.getLast?.getD ';') := by
  rw [List.getLast?_append, List.getLast?_cons]
  rfl

/-- Code with a statement has a last one. -/
lemma exists_isLastExport {code : Text} (h : HasExport code) : ∃ s, IsLastExport code s := by
  induction code using pieceInduction ';' with
  | last piece hpiece => exact absurd h (not_hasExport_of_notMem hpiece)
  | more piece rest hpiece ih =>
      by_cases hrest : HasExport rest
      -- the last one of the rest is the last one, with a piece more before it
      · obtain ⟨s, hcode, hcomponent, hnewline, ⟨pieces, lead, hbefore, hend, hfirst⟩, hlast⟩ :=
          ih hrest
        refine ⟨{ s with before := piece ++ ';' :: s.before }, ?_, hcomponent, ?_,
          ⟨piece ++ ';' :: pieces, lead, ?_, ?_, hfirst⟩, hlast⟩
        · simp [ExportStatement.code, ExportStatement.lineEnd, ← hcode]
        · have hlast : (piece ++ ';' :: (s.before ++ s.lineEnd)).getLast? = some '\n' ↔
              (s.before ++ s.lineEnd).getLast? = some '\n' := by
            rw [getLast?_append_semicolon_cons]
            cases (s.before ++ s.lineEnd).getLast? <;> simp
          rw [← List.cons_append, ← List.append_assoc] at hlast
          exact hnewline.trans hlast.symm
        · simp [hbefore]
        · right
          rw [getLast?_append_semicolon_cons]
          rcases hend with rfl | hend
          · rfl
          · rw [hend]
            rfl
      -- the piece ends with the only one
      · have hinfix := (hasExport_append_cons_iff.mp h).resolve_right hrest
        obtain ⟨lead, newline, component, rfl, hfirst⟩ := exists_isFirstOfPiece hpiece hinfix
        refine ⟨⟨lead, newline, component, rest⟩, ?_, hfirst.component_piece, ?_,
          ⟨[], lead, rfl, .inl rfl, hfirst.lead_piece, hfirst.first⟩, hrest⟩
        · simp [ExportStatement.code, ExportStatement.lineEnd]
        · cases newline with
          | true => simp [ExportStatement.lineEnd, lineEndIf]
          | false => simpa [ExportStatement.lineEnd, lineEndIf] using hfirst.line_end rfl

/-- The reading finds exactly the last statement. -/
theorem lastExport?_eq_some_iff {code : Text} {s : ExportStatement} :
    lastExport? code = some s ↔ IsLastExport code s := by
  refine ⟨fun h => ?_, lastExport?_of_isLastExport⟩
  by_cases hcode : HasExport code
  · obtain ⟨t, ht⟩ := exists_isLastExport hcode
    rw [lastExport?_of_isLastExport ht] at h
    exact Option.some.inj h ▸ ht
  · rw [lastExport?, exportSpans_eq_nil 0 hcode] at h
    exact absurd h (by simp)

lemma lastExport?_eq_none {code : Text} (h : ¬ HasExport code) : lastExport? code = none := by
  rw [lastExport?, exportSpans_eq_nil 0 h]
  rfl

/-! ### Splicing -/

/-- **Splicing**. Code without a statement stays as it is, and the renderer is not called.
Otherwise there is exactly one last statement; the renderer is called once, with its
component, and what it gives takes the place of the statement. -/
theorem splice_replaces_last_export (code : Text) :
    (¬ HasExport code → ∀ render : Text → Run Text,
      splice code render = do Run.report .noExport; return code) ∧
    (HasExport code → ∃ s, IsLastExport code s ∧ (∀ t, IsLastExport code t → t = s) ∧
      ∀ render : Text → Run Text, splice code render = do
        let text ← render s.component
        return s.before ++ text ++ s.after) := by
  constructor
  · intro h render
    rw [splice, lastExport?_eq_none h]
  · intro h
    obtain ⟨s, hs⟩ := exists_isLastExport h
    have hread := lastExport?_eq_some_iff.mpr hs
    refine ⟨s, hs, fun t ht => ?_, fun render => ?_⟩
    · rw [lastExport?_eq_some_iff.mpr ht] at hread
      exact Option.some.inj hread
    · rw [splice, hread]

end HotReload
