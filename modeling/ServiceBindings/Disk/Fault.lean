/-!
# Faults of disk operations
-/

namespace ServiceBindings.Disk

/-- Why an operation on a disk fails. -/
inductive Fault where
  /-- A name or what it should be in does not exist. -/
  | notFound
  | alreadyExists
  /-- Something that is not a directory is used as one. -/
  | notADirectory
  /-- A directory is used as a file. -/
  | isADirectory
  /-- A name has more octets than a directory can hold, or a path more than are followed. -/
  | nameTooLong
  /-- The place belongs to the system and cannot be given to a file. -/
  | busy
  /-- A path contains the null character, which ends a path for the system. -/
  | nullInPath
  /-- A fault with a text of its own. -/
  | other (text : String)
deriving DecidableEq, Repr

/-- The text of a fault. -/
def Fault.message : Fault → String
  | notFound => "No such file or directory (os error 2)"
  | alreadyExists => "File exists (os error 17)"
  | notADirectory => "Not a directory (os error 20)"
  | isADirectory => "Is a directory (os error 21)"
  | nameTooLong => "File name too long (os error 36)"
  | busy => "Device or resource busy (os error 16)"
  | nullInPath => "file name contained an unexpected NUL byte"
  | other text => text

end ServiceBindings.Disk
