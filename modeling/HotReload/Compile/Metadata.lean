import HotReload.Compile.Accessors
/-!
What the reload runtime is told of a compile result: the variables of the component and
whether it declares the accessors option.
-/

namespace HotReload

/-- The variables as the compiler gave them, and whether there are accessors if the
compile result tells. -/
structure CompileMetadata where
  vars : Value
  accessors : Option Bool

/-- The parts that are known. -/
def CompileMetadata.toMapping (data : CompileMetadata) : Mapping :=
  (match data.vars with
    | .null => []
    | vars => [(("vars" : Value), vars)]) ++
  (match data.accessors with
    | none => []
    | some b => [("accessors", .bool b)])

/-- Summarises a compile result, if there is one. -/
def readMetadata (walk : Walker) (compiled : Value) : Run (Option CompileMetadata) :=
  match compiled with
  | .null => return none
  | compiled => do
      let accessors ← Run.ofExcept (hasAccessors walk compiled)
      Run.report (.accessorsFound accessors)
      let vars ← Run.ofExcept (compiled.member "vars")
      return some ⟨vars, accessors⟩

end HotReload
