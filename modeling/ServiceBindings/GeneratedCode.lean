/-!
# Generated code

Files with their contents, in the order in which they were generated.
-/

namespace ServiceBindings

/-- A file with its path and its content. -/
structure GeneratedFile where
  path : String
  content : String
deriving DecidableEq, Repr

/-- Generated files in order. -/
abbrev GeneratedCode := List GeneratedFile

namespace GeneratedCode

/-- The paths of the files in order. -/
def paths (code : GeneratedCode) : List String :=
  code.map (·.path)

/-- The first file with a path. -/
def findPath? (code : GeneratedCode) (path : String) : Option GeneratedFile :=
  code.find? (·.path == path)

end GeneratedCode

end ServiceBindings
