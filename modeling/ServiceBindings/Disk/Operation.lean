import ServiceBindings.Disk.Resolution

/-!
# Operations on a disk

An operation succeeds, with the disk that it makes, or it fails and changes nothing.
Creating a directory with those above it is a sequence of operations, of which the first may
succeed and a later one fail.
-/

namespace ServiceBindings.Disk

/-- Makes a directory in an existing one. -/
def makeDirectory (disk : Disk) (path : String) : Except Fault Disk :=
  match disk.locate path with
  | .error fault => .error fault
  | .ok ⟨_, none⟩ => .error .alreadyExists
  | .ok ⟨directory, some name⟩ =>
    match disk.find? (directory ++ [name]) with
    | some _ => .error .alreadyExists
    | none => .ok (disk.put (directory ++ [name]) .directory)

/-- Writes a file, in the place of an older file. -/
def write (disk : Disk) (path : String) (octets : List UInt8) : Except Fault Disk :=
  match disk.locate path with
  | .error fault => .error fault
  | .ok ⟨_, none⟩ => .error .isADirectory
  | .ok ⟨directory, some name⟩ =>
    if endsInSlash path then .error .isADirectory
    else
      match disk.find? (directory ++ [name]) with
      | some .directory => .error .isADirectory
      | _ => .ok (disk.put (directory ++ [name]) (.file octets))

/-- Moves a file to another path, in the place of an older file. -/
def rename (disk : Disk) (source destination : String) : Except Fault Disk :=
  match disk.locate source, disk.locate destination with
  | .error fault, _ => .error fault
  | .ok _, .error fault => .error fault
  | .ok source, .ok destination =>
    if source.name?.isNone || destination.name?.isNone then .error .busy
    else
      match disk.find? source.location, disk.find? destination.location with
      | none, _ => .error .notFound
      | some .directory, _ => .error .isADirectory
      | some (.file _), some .directory => .error .isADirectory
      | some (.file octets), _ =>
        .ok ((disk.remove source.location).put destination.location (.file octets))

/-- What a path leads to. -/
def lookUp (disk : Disk) (path : String) : Except Fault (Location × Entry) :=
  match disk.locate path with
  | .error fault => .error fault
  | .ok target =>
    match disk.find? target.location with
    | none => .error .notFound
    | some .directory => .ok (target.location, .directory)
    | some (.file octets) =>
      if endsInSlash path then .error .notADirectory else .ok (target.location, .file octets)

/-- Whether a path leads to anything. -/
def pathExists (disk : Disk) (path : String) : Bool :=
  match disk.lookUp path with
  | .ok _ => true
  | .error _ => false

/-- Whether a path leads to a directory. -/
def isDirectory (disk : Disk) (path : String) : Bool :=
  match disk.lookUp path with
  | .ok (_, .directory) => true
  | _ => false

/-- The octets of the file at a path. -/
def read (disk : Disk) (path : String) : Except Fault (List UInt8) :=
  match disk.lookUp path with
  | .error fault => .error fault
  | .ok (_, .directory) => .error .isADirectory
  | .ok (_, .file octets) => .ok octets

/-- The path of the given names, which starts at the root if `absolute`. -/
def pathOf (absolute : Bool) (names : List String) : String :=
  (if absolute then "/" else "") ++ String.intercalate "/" names

/-- Makes a directory unless there is one. -/
def ensureDirectory (disk : Disk) (path : String) : Disk × Option Fault :=
  match disk.makeDirectory path with
  | .ok made => (made, none)
  | .error fault => (disk, if disk.isDirectory path then none else some fault)

/-- Makes the directories of the given names, last name first, from the first one that is
missing.  The name `.` leads nowhere. -/
def ensureAbove (disk : Disk) (absolute : Bool) : List String → Disk × Option Fault
  | [] => (disk, none)
  | name :: above =>
    if name = "." then disk.ensureAbove absolute above
    else
      let path := pathOf absolute (name :: above).reverse
      match disk.makeDirectory path with
      | .ok made => (made, none)
      | .error .notFound =>
        match disk.ensureAbove absolute above with
        | (made, none) => made.ensureDirectory path
        | failed => failed
      | .error fault => (disk, if disk.isDirectory path then none else some fault)

/-- Makes a directory and the missing ones above it, unless there is one.  Directories that
were made before a fault stay. -/
def createDirectories (disk : Disk) (path : String) : Disk × Option Fault :=
  if (steps path).isEmpty then (disk, none)
  else
    match disk.makeDirectory path with
    | .ok made => (made, none)
    | .error .notFound =>
      match disk.ensureAbove (isAbsolute path)
          ((steps path).reverse.dropWhile (· == ".")).tail with
      | (made, none) => made.ensureDirectory path
      | failed => failed
    | .error fault => (disk, if disk.isDirectory path then none else some fault)

end ServiceBindings.Disk
