import ServiceBindings.Artifact.Path
import ServiceBindings.Dictionary

/-!
# Artifact trees

Artifacts by path.  A tree holds at most one artifact at a path and keeps the one that it got
first.
-/

namespace ServiceBindings.Artifact

/-- Contents by path; every key is an artifact path. -/
structure Tree where
  contents : Dictionary String
  isPath : ∀ entry ∈ contents.entries, isPath entry.1 = true
deriving DecidableEq

namespace Tree

/-- The tree without artifacts. -/
def empty : Tree := ⟨.empty, by simp [Dictionary.empty]⟩

/-- The tree with a content at a path, in the place of an older one. -/
def put (tree : Tree) (path : Path) (content : String) : Tree where
  contents := tree.contents.insert path.text content
  isPath := fun entry member => by
    rcases Dictionary.mem_insertEntry member with rfl | old
    · exact path.isPath
    · exact tree.isPath entry old

/-- Adds an artifact at a path that is not taken. -/
def add (tree : Tree) (path content : String) : Except ArtifactError Tree :=
  match Path.ofText path with
  | .error error => .error error
  | .ok path =>
    if tree.contents.contains path.text then .error (.duplicate path.text)
    else .ok (tree.put path content)

/-- The content of the artifact at a path. -/
def read (tree : Tree) (path : String) : Except ArtifactError String :=
  match Path.ofText path with
  | .error error => .error error
  | .ok path =>
    match tree.contents.find? path.text with
    | some content => .ok content
    | none => .error (.notFound path.text)

/-- Whether there is an artifact at a path. -/
def contains (tree : Tree) (path : String) : Bool :=
  match tree.read path with
  | .ok _ => true
  | .error _ => false

/-- The paths of all artifacts in ascending order. -/
def paths (tree : Tree) : List String := tree.contents.keys

/-- The number of artifacts. -/
def size (tree : Tree) : Nat := tree.contents.size

/-- Whether there are no artifacts. -/
def isEmpty (tree : Tree) : Bool := tree.contents.isEmpty

/-- The number of octets of all contents together. -/
def octetCount (tree : Tree) : Nat :=
  tree.contents.values.foldr (fun content count => content.utf8ByteSize + count) 0

/-- Adds the directories above an artifact to the known ones, from the innermost one up.  Above
a known directory all of them are known, so the first known one is the last to be looked at. -/
def addUpwards (known : Dictionary Unit) : List String → Dictionary Unit
  | [] => known
  | directory :: above =>
    if known.contains directory then known
    else addUpwards (known.insert directory ()) above

/-- The directories above all artifacts in ascending order. -/
def directories (tree : Tree) : List String :=
  (tree.paths.foldl (fun known path => addUpwards known (directoriesAbove path).reverse)
    .empty).keys

end Tree

end ServiceBindings.Artifact
