import HotReload.Text
/-!
Paths as they are written: a root, which is empty for a relative path, and the parts
between the slashes. Empty parts and single points are left out, double points stay.
-/

namespace HotReload

/-- A path. -/
structure Path where
  root : Text
  parts : List Text
  deriving DecidableEq, Repr, Inhabited

namespace Path

/-- The root of a written path: one slash, or two if there are exactly two. -/
def rootOf : Text → Text
  | '/' :: '/' :: '/' :: _ => ['/']
  | '/' :: '/' :: _ => ['/', '/']
  | '/' :: _ => ['/']
  | _ => []

/-- The path that a text writes. -/
def ofText (text : Text) : Path :=
  ⟨rootOf text, (Text.split '/' text).filter fun part => part != [] && part != ['.']⟩

/-- A path as a text; the path without root and parts is a point. -/
def text (p : Path) : Text :=
  if p.root = [] ∧ p.parts = [] then ['.'] else p.root ++ Text.join ['/'] p.parts

/-- The path `q` as seen from `p`. -/
def append (p q : Path) : Path := if q.root = [] then ⟨p.root, p.parts ++ q.parts⟩ else q

/-- The path without its last part. -/
def parent (p : Path) : Path := ⟨p.root, p.parts.dropLast⟩

/-- Whether a null character stands in a path. -/
def hasNull (p : Path) : Bool := p.parts.any (·.contains '\x00')

/-- The last part. -/
def name (p : Path) : Text := p.parts.getLast?.getD []

end Path

end HotReload
