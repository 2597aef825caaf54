import HotReload.Activation
import HotReload.Proofs.NamedCharacters
import HotReload.Proofs.Rendering
/-!
The activation template that is built in, and what it prints.

* `activationNodes` are its nodes: `readTemplate_activationText`.
* `find_activationScope`: what the names in it stand for.
-/

namespace HotReload

/-! ### Reading it -/

/-- A name in a tag that prints it. -/
def namePiece (word : Text) : Piece := .output [.name word]

/-- The end of a field and the name of the next one, on a line of its own. -/
def nextField (label : Text) : Text := [','] ++ ['\n'] ++ "    " ++ label ++ ": "

/-- The pieces of the activation template. -/
def activationPieces : List Piece :=
  [.text "if (",
    .block [.name "if", .name "not", .name "compat_vite"], .text "import.meta && ",
    .block [.name "endif"], .text ("import.meta.hot) \x7b" ++ ['\n'] ++ "  "),
    namePiece "component", .text " = ", namePiece "global_name",
    .text (".applyHmr(\x7b" ++ ['\n'] ++ "    " ++ "m" ++ ": "), namePiece "meta",
    .text (nextField "id"), .output [.name "id", .sign '|', .name "js"],
    .text (nextField "hotOptions"), namePiece "hot_options",
    .text (nextField "Component"), namePiece "component",
    .text (nextField "ProxyAdapter"), namePiece "adapter_name",
    .text (nextField "compileData"), namePiece "compile_data",
    .text (nextField "compileOptions"), namePiece "compile_options",
    .text (nextField "cssId"),
    .output [.name "css_id", .sign '|', .name "js", .sign '(', .name "null", .sign '=',
      .name "has_add_css", .sign ')'],
    .text (nextField "nonCssHash"), .output [.name "non_css_hash", .sign '|', .name "js"],
    .text ([','] ++ ['\n'] ++ "  " ++ "\x7d);" ++ ['\n']),
    .block [.name "if", .name "compat_vite"],
    .text ("  " ++ "import.meta.hot.accept();" ++ ['\n']),
    .block [.name "endif"], .text ("\x7d" ++ ['\n'])]

/-- A node that prints a name. -/
def nameNode (word : Text) : TemplateNode := .output (.name word)

/-- A node that prints the literal of a name. -/
def literalNode (word : Text) (args : List (Option Text × TemplateExpr)) : TemplateNode :=
  .output (.filtered (.name word) literalFilter args)

/-- The nodes of the activation template. -/
def activationNodes : List TemplateNode :=
  [.text "if (",
    .condition (.negation (.name "compat_vite")) [.text "import.meta && "] [],
    .text ("import.meta.hot) \x7b" ++ ['\n'] ++ "  "),
    nameNode "component", .text " = ", nameNode "global_name",
    .text (".applyHmr(\x7b" ++ ['\n'] ++ "    " ++ "m" ++ ": "), nameNode "meta",
    .text (nextField "id"), literalNode "id" [],
    .text (nextField "hotOptions"), nameNode "hot_options",
    .text (nextField "Component"), nameNode "component",
    .text (nextField "ProxyAdapter"), nameNode "adapter_name",
    .text (nextField "compileData"), nameNode "compile_data",
    .text (nextField "compileOptions"), nameNode "compile_options",
    .text (nextField "cssId"), literalNode "css_id" [(some "null", .name "has_add_css")],
    .text (nextField "nonCssHash"), literalNode "non_css_hash" [],
    .text ([','] ++ ['\n'] ++ "  " ++ "\x7d);" ++ ['\n']),
    .condition (.name "compat_vite")
      [.text ("  " ++ "import.meta.hot.accept();" ++ ['\n'])] [],
    .text ("\x7d" ++ ['\n'])]

variable (characters : CharacterNames)

lemma piecesOf_activationText : piecesOf characters activationText = some activationPieces := by
  have hpieces : piecesOf (fun _ => none) activationText = some activationPieces := by
    decide +kernel
  exact piecesOf_of_extends characters.extends_empty hpieces

lemma conditionDepth_activationText : conditionDepth characters activationText = 1 := by
  rw [conditionDepth, piecesOf_activationText]
  rfl

lemma nodesOfTemplate_activationText :
    nodesOfTemplate characters activationText = some activationNodes := by
  rw [nodesOfTemplate, piecesOf_activationText]
  rfl

/-- The activation template can be used, and these are its nodes. It names no characters. -/
theorem readTemplate_activationText :
    readTemplate characters activationText = .ok activationNodes := by
  rw [readTemplate, conditionDepth_activationText, nodesOfTemplate_activationText]
  rfl

/-! ### Rendering it -/

/-- The names that the activation template is given besides those of an activation. -/
def slotBindings : Bindings :=
  [("component", .str Activation.slot), ("global_name", .str hotApiName)]

/-- What the activation template can use. -/
def activationScope (a : Activation) : Scope :=
  ⟨activationTemplate, slotBindings ++ a.bindings, identifiersOf activationNodes⟩

/-- The names in the activation template. -/
def activationNames : List Text :=
  ["compat_vite", "component", "global_name", "meta", "id", "hot_options", "adapter_name",
    "compile_data", "compile_options", "css_id", "has_add_css", "non_css_hash"]

lemma lookup_identifiersOf_activationNodes :
    ∀ word ∈ activationNames,
      (identifiersOf activationNodes).lookup word.normal = some word ∧ word ≠ selfName := by
  decide +kernel

/-- Every name in the activation template is looked up under itself. -/
lemma find_activationScope (a : Activation) {word : Text} {v : Value}
    (hword : word ∈ activationNames) (hv : (activationScope a).bindings.lookup word = some v) :
    (activationScope a).find word = .value v := by
  obtain ⟨hlookup, hself⟩ := lookup_identifiersOf_activationNodes word hword
  have hname : (activationScope a).lookupName word = word := by
    rw [Scope.lookupName, activationScope, hlookup, Option.getD_some]
  rw [Scope.find, hname, if_neg hself, hv]

end HotReload
