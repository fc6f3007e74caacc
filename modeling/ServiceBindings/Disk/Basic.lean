import ServiceBindings.Disk.Fault
import ServiceBindings.Disk.Node

/-!
# Disks

What is stored where.  A disk holds regular files and directories only.  There are no symbolic or
hard links, so everything has one location, and no special files, so everything that is no directory
can be read.  All results on disks are under this assumption.  The view of a disk is `find?`; what
an operation does is said by its effect on it.
-/

namespace ServiceBindings

/-- Everything that is stored, by the members of the root, the location where relative paths
start, and the number of octets that a path must stay below, if there is such a limit. -/
structure Disk where
  workingDirectory : Disk.Location
  pathLimit? : Option Nat
  members : List (String × Disk.Node)

namespace Disk

/-- The root directory. -/
def root (disk : Disk) : Node := .directory disk.members

/-- The number of octets that paths usually have to stay below. -/
def usualPathLimit : Nat := 4096

/-- A disk with the usual limit on which only the working directory exists. -/
def ofWorkingDirectory (location : Location) : Disk :=
  ⟨location, some usualPathLimit, (Node.empty.put location .empty).members⟩

/-- Whether a path is short enough. -/
def admits (disk : Disk) (path : String) : Bool :=
  disk.pathLimit?.all (path.utf8ByteSize < ·)

/-- The entry at a location. -/
def find? (disk : Disk) (location : Location) : Option Entry := disk.root.find? location

/-- The disk without an entry at a location. -/
def remove (disk : Disk) (location : Location) : Disk :=
  { disk with members := (disk.root.remove location).members }

/-- The disk with an entry at a location, in the place of an older one. -/
def put (disk : Disk) (location : Location) (entry : Entry) : Disk :=
  { disk with members := ((Node.ofEntry entry).put location disk.root).members }

/-- Everything below a location, by the names that lead there, in ascending order. -/
def below (disk : Disk) (location : Location) : List (Location × Entry) :=
  ((Node.at? location disk.root).map Node.contents).getD []

@[simp] theorem find?_nil (disk : Disk) : disk.find? [] = some .directory := rfl

theorem directory_members_put (new : Node) {location : Location} (belowRoot : location ≠ [])
    (members : List (String × Node)) :
    .directory (Node.put new location (.directory members)).members =
      Node.put new location (.directory members) := by
  cases location with
  | nil => exact absurd rfl belowRoot
  | cons name rest => rfl

theorem directory_members_remove (location : Location) (members : List (String × Node)) :
    .directory (Node.remove location (.directory members)).members =
      Node.remove location (.directory members) := by
  cases location with
  | nil => rfl
  | cons name rest =>
      cases rest with
      | nil => rfl
      | cons second others =>
          simp only [Node.remove]
          split <;> rfl

theorem find?_put (disk : Disk) {location : Location} (belowRoot : location ≠ [])
    (entry : Entry) (inDirectory : disk.find? location.dropLast = some .directory)
    (free : disk.find? location ≠ some .directory) (query : Location) :
    (disk.put location entry).find? query =
      if query = location then some entry else disk.find? query := by
  simp only [find?, root, put]
  rw [directory_members_put _ belowRoot]
  exact Node.find?_put entry belowRoot inDirectory free query

theorem find?_remove (disk : Disk) {location : Location} (belowRoot : location ≠ [])
    (free : disk.find? location ≠ some .directory) (query : Location) :
    (disk.remove location).find? query =
      if query = location then none else disk.find? query := by
  simp only [find?, root, remove]
  rw [directory_members_remove]
  exact Node.find?_remove belowRoot free query

end Disk

end ServiceBindings
