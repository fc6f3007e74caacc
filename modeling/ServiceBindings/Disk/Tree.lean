import ServiceBindings.Disk.Operation

/-!
# Files below a path

A walk comes upon the regular files at or below a path: a directory before what is in it, and
the entries of one directory in ascending order of their names.  What cannot be entered or
read is told in its place.
-/

namespace ServiceBindings.Disk

/-- A path and why it cannot be used. -/
structure Failure where
  path : String
  fault : Fault
deriving DecidableEq, Repr

/-- A file that was found, with its path and, if it can be read, its octets. -/
structure FoundFile where
  path : String
  content : Except Fault (List UInt8)

/-- What a walk comes upon: a file, or something that cannot be entered. -/
abbrev Visit := Except Failure FoundFile

mutual

/-- What a walk comes upon at a path with a node.  A path that is not admitted can neither be
entered nor read. -/
def Node.visits (admits : String → Bool) (path : String) : Node → List Visit
  | .file octets =>
    [.ok ⟨path, if admits path then .ok octets else .error .nameTooLong⟩]
  | .directory members =>
    if admits path then (Node.memberVisits admits path members).values.flatten
    else [.error ⟨path, .nameTooLong⟩]
termination_by structural node => node

/-- What a walk comes upon at the members of the directory at a path, by their names. -/
def Node.memberVisits (admits : String → Bool) (path : String) :
    List (String × Node) → Dictionary (List Visit)
  | [] => .empty
  | (name, node) :: rest =>
    (Node.memberVisits admits path rest).insert name
      (Node.visits admits (joinPath path name) node)
termination_by structural members => members

end

/-- What a walk from a path comes upon. -/
def walk (disk : Disk) (path : String) : List Visit :=
  match disk.lookUp path with
  | .error fault => [.error ⟨path, fault⟩]
  | .ok (location, _) =>
    ((Node.at? location disk.root).map (Node.visits disk.admits path)).getD []

end ServiceBindings.Disk
