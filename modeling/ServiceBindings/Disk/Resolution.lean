import ServiceBindings.Disk.Basic
import ServiceBindings.Text.Segments

/-!
# Paths on a disk

A path is followed name by name from the root or the working directory.  Every name but the
last must be that of a directory.  What a path names is the directory in which it ends and,
unless it ends in `.`, `..` or nothing, a last name, which need not exist yet.
-/

namespace ServiceBindings.Disk

/-- Whether a path starts at the root. -/
def isAbsolute (path : String) : Bool := path.toList.head? == some '/'

/-- The names of a path; slashes beyond those between names count for nothing. -/
def steps (path : String) : List String :=
  (Text.segments '/' path).filter (!·.isEmpty)

/-- A path below another one, unless it starts at the root itself. -/
def joinPath (base rest : String) : String :=
  if isAbsolute rest || base.isEmpty then rest
  else if base.toList.getLast? == some '/' then base ++ rest
  else base ++ "/" ++ rest

/-- The number of octets that a name has at most. -/
def nameLimit : Nat := 255

/-- Whether a name fits into a directory. -/
def fits (name : String) : Bool := name.utf8ByteSize ≤ nameLimit

/-- The directory that a name leads to from a directory. -/
def enter (disk : Disk) (location : Location) (name : String) : Except Fault Location :=
  if name = "." then .ok location
  else if name = ".." then .ok location.dropLast
  else if !fits name then .error .nameTooLong
  else
    match disk.find? (location ++ [name]) with
    | none => .error .notFound
    | some (.file _) => .error .notADirectory
    | some .directory => .ok (location ++ [name])

/-- The directory that names lead to from a directory. -/
def follow (disk : Disk) (location : Location) : List String → Except Fault Location
  | [] => .ok location
  | name :: rest =>
    match disk.enter location name with
    | .error fault => .error fault
    | .ok next => disk.follow next rest

/-- What a path names: a directory, and a name in it unless it is the directory itself. -/
structure Target where
  directory : Location
  name? : Option String
deriving DecidableEq, Repr

/-- The location of a target. -/
def Target.location (target : Target) : Location :=
  target.directory ++ target.name?.toList

/-- Whether the last of the names of a path stands for the directory where it ends. -/
def isDots (name : String) : Bool := name = "." || name = ".."

/-- What names lead to from a directory. -/
def target (disk : Disk) (location : Location) (names : List String) : Except Fault Target :=
  match names.getLast? with
  | none => .ok ⟨location, none⟩
  | some last =>
    if isDots last then (disk.follow location names).map (⟨·, none⟩)
    else
      match disk.follow location names.dropLast with
      | .error fault => .error fault
      | .ok directory => if fits last then .ok ⟨directory, some last⟩ else .error .nameTooLong

/-- What a path names. -/
def locate (disk : Disk) (path : String) : Except Fault Target :=
  if path.toList.contains '\x00' then .error .nullInPath
  else if path.isEmpty then .error .notFound
  else if !disk.admits path then .error .nameTooLong
  else disk.target (if isAbsolute path then [] else disk.workingDirectory) (steps path)

/-- Whether a path asks for a directory by a slash at its end. -/
def endsInSlash (path : String) : Bool := path.toList.getLast? == some '/'

end ServiceBindings.Disk
