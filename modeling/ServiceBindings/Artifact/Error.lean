import ServiceBindings.Disk.Fault

/-!
# Artifact errors

Why artifacts cannot be collected, found or written.
-/

namespace ServiceBindings

/-- An error about an artifact. -/
inductive ArtifactError where
  /-- A path is empty, starts at the root or is not a text. -/
  | invalidPath (path : String)
  /-- A path has an empty component, or one that is `.` or `..`. -/
  | invalidComponent (path : String)
  /-- Two artifacts have the same path. -/
  | duplicate (path : String)
  | notFound (path : String)
  /-- An artifact cannot be written to disk. -/
  | disk (path : String) (fault : Disk.Fault)
deriving DecidableEq, Repr

namespace ArtifactError

/-- The text of an error. -/
def message : ArtifactError → String
  | invalidPath path => "Invalid artifact path: " ++ path
  | invalidComponent path => "Artifact path contains invalid components: " ++ path
  | duplicate path => "Artifact path produced more than once: " ++ path
  | notFound path => "Artifact not found: " ++ path
  | disk path fault => "I/O error at " ++ path ++ ": " ++ fault.message

/-- Whether a path is no artifact path. -/
def isInvalidPath : ArtifactError → Bool
  | invalidPath _ | invalidComponent _ => true
  | _ => false

/-- Whether two artifacts have the same path. -/
def isDuplicate : ArtifactError → Bool
  | duplicate _ => true
  | _ => false

/-- Whether there is no such artifact. -/
def isNotFound : ArtifactError → Bool
  | notFound _ => true
  | _ => false

/-- Whether the disk is at fault. -/
def isDiskError : ArtifactError → Bool
  | disk _ _ => true
  | _ => false

end ArtifactError

end ServiceBindings
