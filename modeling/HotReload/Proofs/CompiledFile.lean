import HotReload.Proofs.Lines
import HotReload.Proofs.Outcomes
import HotReload.Proofs.Transform
import HotReload.Proofs.Utf8
/-!
What a run of `transform` writes into the file that it is told to write.

* `hasExport_universalLines`: the export statements of a file do not depend on how its line ends
  are read.
* `exists_transform_of_hotCode`: the code that is made hot is the text of the file, as it is read.
* `execute_transform_output`: the bytes around the replaced statement are those of the file with
  all its line ends written in one way, which are those of the file just if there is no carriage
  return in it.
-/

namespace HotReload

/-! ### Line ends -/

/-- Neither the keyword nor the semicolon is touched by the way in which line ends are read. -/
lemma hasExport_universalLines {text : Text} : HasExport text.universalLines ↔ HasExport text := by
  constructor
  · rintro ⟨lead, component, rest, h⟩
    rw [List.append_assoc _ component] at h
    obtain ⟨lead, behind, rfl, -, hbehind⟩ := Text.exists_word_of_universalLines (by decide) h
    rw [List.append_cons] at hbehind
    obtain ⟨component, rest, rfl, -, -⟩ := Text.exists_word_of_universalLines (by decide) hbehind
    exact ⟨lead, component, rest, by simp⟩
  · rintro ⟨lead, component, rest, rfl⟩
    refine ⟨lead.universalLines, component.universalLines, Text.universalLines rest, ?_⟩
    rw [List.append_assoc _ component, List.append_cons component,
      Text.universalLines_append_word _ _ (by decide) (by decide) (by decide),
      Text.universalLines_append_word _ _ (by decide) (by decide) (by decide)]
    simp only [List.append_assoc, List.singleton_append]

/-! ### The run -/

variable {disk : Disk} {installation : Installation} {markup : Markup} {a : TransformArguments}
  {path : Path}

/-- The transformer that the configuration of a run describes. -/
def TransformArguments.transformer (a : TransformArguments) (disk : Disk)
    (installation : Installation) : Run Transformer := do
  let config ← projectConfig disk a.config
  config.transformer.build disk installation config.hot

/-- The code that is made hot is the text of the file, as it is read. -/
lemma exists_transform_of_hotCode {content : List UInt8} {text out : Text}
    (hcontent : disk.read a.file = .ok content) (htext : textOfUtf8 content = .ok text)
    (h : (hotCode disk installation a).result = .ok out) :
    ∃ t component, (a.transformer disk installation).result = .ok t ∧
      component.id = .str a.componentId ∧ component.code = .str text.universalLines ∧
      (t.transform disk component).result = .ok out := by
  obtain ⟨config, hconfig, h⟩ := Run.bind_eq_ok.mp h
  obtain ⟨t, ht, h⟩ := Run.bind_eq_ok.mp h
  obtain ⟨code, hcode, h⟩ := Run.bind_eq_ok.mp h
  obtain ⟨compiled, -, h⟩ := Run.bind_eq_ok.mp h
  obtain ⟨source, -, h⟩ := Run.bind_eq_ok.mp h
  obtain ⟨compileOptions, -, h⟩ := Run.bind_eq_ok.mp h
  have hread : readText disk a.file = .ok text.universalLines := by
    rw [readText, hcontent]
    simp only [htext]
  obtain rfl : text.universalLines = code := Except.ok.inj (hread.symm.trans hcode)
  exact ⟨t, _, Run.bind_eq_ok.mpr ⟨config, hconfig, ht⟩, rfl, rfl, h⟩

/-- **The file that is written**. A run of `transform` with the status zero writes the text of the
compiled file with all its line ends read as `\n`: unchanged if the file has no export statement,
and otherwise with the text of an activation in the place of the last one. All other bytes are
those of the compiled file just if it has no carriage return. -/
theorem execute_transform_output {content : List UInt8} {text : Text}
    (houtput : a.output = some path) (hcontent : disk.read a.file = .ok content)
    (htext : textOfUtf8 content = .ok text)
    (hstatus : ((Command.transform a).execute disk installation markup).status = 0) :
    ∃ written,
      ((Command.transform a).execute disk installation markup).disk.read path = .ok written ∧
      (¬ HasExport text → written = text.universalLines.toUtf8) ∧
      (HasExport text → ∃ t component activation s rendered,
        (a.transformer disk installation).result = .ok t ∧
        component.id = .str a.componentId ∧
        (t.activation component text.universalLines).result = .ok activation ∧
        IsLastExport text.universalLines s ∧
        activation.text t.library disk s.component = .ok rendered ∧
        written = s.before.toUtf8 ++ rendered.toUtf8 ++ s.after.toUtf8) ∧
      (text.universalLines.toUtf8 = content ↔ '\r' ∉ text) := by
  obtain ⟨out, hout, hwrite⟩ := exists_write_of_status houtput hstatus
  obtain ⟨t, component, ht, hid, hcode, htransform⟩ :=
    exists_transform_of_hotCode hcontent htext hout
  refine ⟨out.toUtf8, Disk.read_of_write hwrite, fun hexport => ?_, fun hexport => ?_, ?_⟩
  · rw [eq_code_of_transform hcode (mt hasExport_universalLines.mp hexport) htransform]
  · obtain ⟨activation, s, rendered, hactivation, hs, hrendered, rfl⟩ :=
      exists_text_of_transform hcode (hasExport_universalLines.mpr hexport) htransform
    refine ⟨t, component, activation, s, rendered, ht, hid, hactivation, hs, hrendered, ?_⟩
    rw [toUtf8_append, toUtf8_append]
  · rw [← Text.universalLines_eq_self_iff, ← textOfUtf8_eq_ok_iff, htext]
    exact ⟨fun h => (Except.ok.inj h).symm, fun h => congrArg Except.ok h.symm⟩

/-- A file in the working directory, and the run that makes it hot into another file. -/
def oneFile (text : Text) : Disk := (Disk.empty []).place ["App.js"] (.file text.toUtf8)

def transformOneFile : TransformArguments where
  file := ⟨[], ["App.js"]⟩
  id := none
  compiled := none
  source := none
  compileOptions := none
  config := none
  output := some ⟨[], ["out.js"]⟩

/-- A component, and lines that end with a carriage return and a line feed. -/
def returnedLines : Text := "import './a.css';\r\nexport default A;\r\n"

theorem execute_transform_returnedLines :
    ∃ written, ((Command.transform transformOneFile).execute (oneFile returnedLines) {}
        .plain).disk.read ⟨[], ["out.js"]⟩ = .ok written ∧
      (¬ HasExport returnedLines → written = returnedLines.universalLines.toUtf8) ∧
      (HasExport returnedLines → ∃ t component activation s rendered,
        (transformOneFile.transformer (oneFile returnedLines) {}).result = .ok t ∧
        component.id = .str transformOneFile.componentId ∧
        (t.activation component returnedLines.universalLines).result = .ok activation ∧
        IsLastExport returnedLines.universalLines s ∧
        activation.text t.library (oneFile returnedLines) s.component = .ok rendered ∧
        written = s.before.toUtf8 ++ rendered.toUtf8 ++ s.after.toUtf8) ∧
      (returnedLines.universalLines.toUtf8 = returnedLines.toUtf8 ↔ '\r' ∉ returnedLines) := by
  have hcontent : (oneFile returnedLines).read ⟨[], ["App.js"]⟩ = .ok returnedLines.toUtf8 := by
    decide +kernel
  have hstatus : ((Command.transform transformOneFile).execute (oneFile returnedLines)
      {} .plain).status = 0 := by
    decide +kernel
  exact execute_transform_output rfl hcontent (textOfUtf8_eq_ok_iff.mpr rfl) hstatus

/-- A line that ends with a carriage return and a line feed, and exports nothing. -/
def returnedLine : Text := "const a = 1;\r\n"

/-- A carriage return is lost even where there is nothing to replace. -/
theorem not_execute_transform_keeps_bytes :
    ¬ ∀ (disk : Disk) (installation : Installation) (markup : Markup) (a : TransformArguments)
      (path : Path) (content : List UInt8) (text : Text), a.output = some path →
      disk.read a.file = .ok content → textOfUtf8 content = .ok text → ¬ HasExport text →
      ((Command.transform a).execute disk installation markup).status = 0 →
      ((Command.transform a).execute disk installation markup).disk.read path = .ok content := by
  intro h
  have hcontent : (oneFile returnedLine).read ⟨[], ["App.js"]⟩ = .ok returnedLine.toUtf8 := by
    decide +kernel
  have hexport : ¬ HasExport returnedLine := by
    rintro ⟨lead, component, rest, hcode⟩
    have hkeyword : ¬ exportKeyword <:+: returnedLine := by decide
    exact hkeyword ⟨lead, component ++ ';' :: rest, by simp [hcode]⟩
  have hstatus : ((Command.transform transformOneFile).execute (oneFile returnedLine)
      {} .plain).status = 0 := by
    decide +kernel
  have hkept := h _ _ .plain _ _ _ _ rfl hcontent (textOfUtf8_eq_ok_iff.mpr rfl) hexport hstatus
  have hlost : ((Command.transform transformOneFile).execute (oneFile returnedLine)
      {} .plain).disk.read ⟨[], ["out.js"]⟩ = .ok (Text.toUtf8 "const a = 1;\n") := by
    decide +kernel
  rw [hkept] at hlost
  exact absurd (Except.ok.inj hlost) (by decide)

end HotReload
