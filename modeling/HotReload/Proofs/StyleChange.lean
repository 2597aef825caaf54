import HotReload.Proofs.WordRuns
/-!
Changes of styles alone. When the styles of a component change, the compiled code changes
in the function that adds the stylesheet, and wherever the hash of the styles stands.

* `readStylesheet_of_word`: what is read of code whose style id has a word for a hash.
* `nonCssHash_eq_of_style_change`: the hash of everything else stays the same.
-/

namespace HotReload

open Text

/-- The hash of everything else, where the hash of the styles is a word: that of the code
without the function and without the runs equal to the word. -/
lemma readStylesheet_of_word {code id word : Text} {cut : StylesheetCut}
    (hcut : cutStylesheet code = some cut) (hid : styleId? cut.body = some id)
    (hpart : (split '-' id)[1]? = some word) (hword : IsWord word) :
    (readStylesheet code true).result =
      .ok ⟨some id, some (hashText (withoutRuns word cut.remainder)), true⟩ := by
  have hstyle : styleHash id = word := by
    rw [styleHash]
    cases hsplit : split '-' id with
    | nil => simp [hsplit] at hpart
    | cons first parts =>
        cases parts with
        | nil => simp [hsplit] at hpart
        | cons second parts => simpa [hsplit] using hpart
  have hne : id ≠ [] := by
    rintro rfl
    simp [split] at hpart
  -- to remove the word is to drop the runs that are equal to it
  have hhash : nonCssHash cut.remainder id = hashText (withoutRuns word cut.remainder) := by
    rw [nonCssHash, hstyle, removeWord_eq_withoutRuns hword, if_neg (by simpa using hword.1)]
  have hsheet : Stylesheet.ofCode code true =
      ⟨some id, some (hashText (withoutRuns word cut.remainder)), true⟩ := by
    simp [Stylesheet.ofCode, hcut, hid, hne, hhash]
  simp [readStylesheet, hsheet]

/-- **A change of styles alone**. The code without the function is the same but for the
hash of the styles, which another word has taken the place of, and that word stood nowhere
by itself before. Then the hash of everything else is there in both, and the same. -/
theorem nonCssHash_eq_of_style_change {code code' id id' word word' : Text}
    {cut cut' : StylesheetCut}
    (hcut : cutStylesheet code = some cut) (hcut' : cutStylesheet code' = some cut')
    (hid : styleId? cut.body = some id) (hid' : styleId? cut'.body = some id')
    (hpart : (split '-' id)[1]? = some word) (hpart' : (split '-' id')[1]? = some word')
    (hword : IsWord word) (hword' : IsWord word')
    (hchange : cut'.remainder = replaceRuns word word' cut.remainder)
    (hnew : word' = word ∨ word' ∉ cut.remainder.tokens) :
    ∃ hash, (readStylesheet code true).result.map (·.nonCssHash) = .ok (some hash) ∧
      (readStylesheet code' true).result.map (·.nonCssHash) = .ok (some hash) := by
  have hsame : withoutRuns word' cut'.remainder = withoutRuns word cut.remainder := by
    rw [hchange]
    exact withoutRuns_replaceRuns hword hword' hnew
  refine ⟨hashText (withoutRuns word cut.remainder), ?_, ?_⟩
  · rw [readStylesheet_of_word hcut hid hpart hword]
    rfl
  · rw [readStylesheet_of_word hcut' hid' hpart' hword', hsame]
    rfl

/-- A component whose styles have the hash `a9`. -/
def styledCode : Text :=
  "let a9;\nfunction add_css() \x7b\n\tstyle.id = 's-a9-style';\n\x7d\nset('a9', a9a, é.a9)"

/-- The component with other styles, whose hash is `b`. -/
def restyledCode : Text :=
  "let b;\nfunction add_css() \x7b\n\tstyle.id=\"s-b\";\n\tmore();\n\x7d\nset('b', a9a, é.b)"

theorem nonCssHash_restyledCode :
    ∃ hash, (readStylesheet styledCode true).result.map (·.nonCssHash) = .ok (some hash) ∧
      (readStylesheet restyledCode true).result.map (·.nonCssHash) = .ok (some hash) :=
  @nonCssHash_eq_of_style_change styledCode restyledCode "s-a9-style" "s-b" "a9" "b"
    ⟨"let a9;\n", "function add_css() \x7b\n\tstyle.id = 's-a9-style';\n\x7d",
      "\nset('a9', a9a, é.a9)"⟩
    ⟨"let b;\n", "function add_css() \x7b\n\tstyle.id=\"s-b\";\n\tmore();\n\x7d",
      "\nset('b', a9a, é.b)"⟩
    (by decide +kernel) (by decide +kernel) (by decide +kernel) (by decide +kernel)
    (by decide) (by decide) (by decide) (by decide) (by decide +kernel) (by decide +kernel)

end HotReload
