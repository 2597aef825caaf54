import HotReload.Template.Token
/-!
The structure of a template.

* `TemplateExpr` is what a tag prints or tests: a constant, a name, a negation, or a
  filter applied to one of these.
* `TemplateNode` is text, an output or a condition.
* `nodesOfTemplate` reads the nodes of a template, or fails if its tags do not fit
  together.
-/

namespace HotReload

/-- An expression. An argument of a filter may have a name. -/
inductive TemplateExpr where
  | constant (value : Value)
  | name (name : Text)
  | negation (expr : TemplateExpr)
  | filtered (expr : TemplateExpr) (filter : Text) (args : List (Option Text × TemplateExpr))
  deriving Inhabited

/-- A part of a template. -/
inductive TemplateNode where
  | text (text : Text)
  | output (expr : TemplateExpr)
  | condition (test : TemplateExpr) (body otherwise : List TemplateNode)
  deriving Inhabited

/-! ### Expressions -/

/-- The value that a word stands for, if it is no name. -/
def constantWord? (name : Text) : Option Value :=
  if name = "true" ∨ name = "True" then some (.bool true)
  else if name = "false" ∨ name = "False" then some (.bool false)
  else if name = "none" ∨ name = "None" then some .null
  else none

/-- The text of a row of strings at the start of the tokens. -/
def stringRow : List Token → RawText × List Token
  | .string text :: rest =>
      let (more, after) := stringRow rest
      (text ++ more, after)
  | tokens => ([], tokens)

/-- The parts of a filter's name after the first, each after a point. -/
def filterNameParts : List Token → Text × List Token
  | .sign '.' :: .name part :: rest =>
      let (more, after) := filterNameParts rest
      ('.' :: part ++ more, after)
  | tokens => ([], tokens)

mutual

/-- An expression at the start of the tokens, and the tokens after it. -/
def readExpr : Nat → List Token → Option (TemplateExpr × List Token)
  | 0, _ => none
  | fuel + 1, tokens =>
      match tokens with
      | .name name :: rest =>
          if name = "not" then
            (readExpr fuel rest).map fun (e, after) => (.negation e, after)
          else
            let start := match constantWord? name with
              | some value => TemplateExpr.constant value
              | none => .name name
            readFilters fuel start rest
      | .string _ :: _ =>
          let (text, rest) := stringRow tokens
          readFilters fuel (.constant (valueOfRaw text)) rest
      | .int n :: rest => readFilters fuel (.constant (.int n)) rest
      | .float x :: rest => readFilters fuel (.constant (.float x)) rest
      | .sign '(' :: rest =>
          match readExpr fuel rest with
          | some (e, .sign ')' :: after) => readFilters fuel e after
          | _ => none
      | _ => none

/-- The filters that follow an expression. -/
def readFilters : Nat → TemplateExpr → List Token → Option (TemplateExpr × List Token)
  | 0, _, _ => none
  | fuel + 1, expr, tokens =>
      match tokens with
      | .sign '|' :: .name first :: rest =>
          let (more, rest) := filterNameParts rest
          match rest with
          | .sign '(' :: rest =>
              match readArgs fuel false rest with
              | some (args, after) => readFilters fuel (.filtered expr (first ++ more) args) after
              | none => none
          | _ => readFilters fuel (.filtered expr (first ++ more) []) rest
      | .sign '|' :: _ => none
      | _ => some (expr, tokens)

/-- The arguments up to the closing bracket; after one with a name, all have names. -/
def readArgs : Nat → Bool → List Token →
    Option (List (Option Text × TemplateExpr) × List Token)
  | 0, _, _ => none
  | fuel + 1, named, tokens =>
      let more (arg : Option Text × TemplateExpr) (named : Bool) (rest : List Token) :
          Option (List (Option Text × TemplateExpr) × List Token) :=
        match rest with
        | .sign ')' :: after => some ([arg], after)
        | .sign ',' :: after =>
            (readArgs fuel named after).map fun (args, after) => (arg :: args, after)
        | _ => none
      match tokens with
      | .sign ')' :: after => some ([], after)
      | .name name :: .sign '=' :: rest =>
          match readExpr fuel rest with
          | some (e, after) => more (some name, e) true after
          | none => none
      | _ =>
          if named then none
          else
            match readExpr fuel tokens with
            | some (e, after) => more (none, e) false after
            | none => none

end

/-- An expression that takes all the tokens. -/
def wholeExpr (tokens : List Token) : Option TemplateExpr :=
  match readExpr (3 * tokens.length + 3) tokens with
  | some (e, []) => some e
  | _ => none

/-! ### Nodes -/

/-- A colon may stand at the end of a tag that opens a body. -/
def withoutColon (tokens : List Token) : List Token :=
  if tokens.getLast? = some (.sign ':') then tokens.dropLast else tokens

/-- What ends a body: the end of the condition, its last branch, or a further branch with
its test. -/
inductive BodyEnd where
  | endif
  | otherwise
  | elif (test : TemplateExpr)

/-- The tag that ends a body, if it is one. -/
def bodyEnd? (tokens : List Token) : Option (Option BodyEnd) :=
  match tokens with
  | .name word :: rest =>
      if word = "endif" then some (if rest.isEmpty then some .endif else none)
      else if word = "else" then
        some (if (withoutColon rest).isEmpty then some .otherwise else none)
      else if word = "elif" then some ((wholeExpr (withoutColon rest)).map .elif)
      else none
  | _ => none

mutual

/-- Nodes up to the end of the template or to a tag that ends a body, and that tag with
the pieces after it. -/
def readNodes : Nat → List Piece → Option (List TemplateNode × Option (BodyEnd × List Piece))
  | 0, _ => none
  | fuel + 1, pieces =>
      match pieces with
      | [] => some ([], none)
      | .text text :: rest =>
          (readNodes fuel rest).map fun (nodes, stop) => (.text text :: nodes, stop)
      | .output tokens :: rest => do
          let e ← wholeExpr tokens
          let (nodes, stop) ← readNodes fuel rest
          return (.output e :: nodes, stop)
      | .block tokens :: rest =>
          match bodyEnd? tokens with
          | some none => none
          | some (some ending) => some ([], some (ending, rest))
          | none =>
              match tokens with
              | .name word :: tokens =>
                  if word = "if" then do
                    let test ← wholeExpr (withoutColon tokens)
                    let (node, rest) ← readCondition fuel test rest
                    let (nodes, stop) ← readNodes fuel rest
                    return (node :: nodes, stop)
                  else none
              | _ => none

/-- The bodies of a condition, after the tag with its test. -/
def readCondition : Nat → TemplateExpr → List Piece → Option (TemplateNode × List Piece)
  | 0, _, _ => none
  | fuel + 1, test, pieces => do
      let (body, stop) ← readNodes fuel pieces
      match stop with
      | some (.endif, rest) => return (.condition test body [], rest)
      | some (.elif next, rest) => do
          let (otherwise, rest) ← readCondition fuel next rest
          return (.condition test body [otherwise], rest)
      | some (.otherwise, rest) => do
          let (otherwise, stop) ← readNodes fuel rest
          match stop with
          | some (.endif, rest) => return (.condition test body otherwise, rest)
          | _ => none
      | none => none

end

/-- The conditions that are open at a place in a template, and the most that have been. -/
structure OpenConditions where
  now : Nat
  most : Nat

/-- The conditions that are open after a piece. -/
def OpenConditions.after (c : OpenConditions) : Piece → OpenConditions
  | .block (.name word :: _) =>
      if word = "if" then ⟨c.now + 1, max c.most (c.now + 1)⟩
      else if word = "endif" then ⟨c.now - 1, c.most⟩
      else c
  | _ => c

/-- The most conditions of a template that are one inside the other. -/
def conditionDepth (characters : CharacterNames) (template : Text) : Nat :=
  (((piecesOf characters template).getD []).foldl OpenConditions.after ⟨0, 0⟩).most

/-- The nodes of a template. -/
def nodesOfTemplate (characters : CharacterNames) (template : Text) :
    Option (List TemplateNode) := do
  let pieces ← piecesOf characters template
  match ← readNodes (2 * pieces.length + 2) pieces with
  | (nodes, none) => return nodes
  | (_, some _) => none

end HotReload
