import ServiceBindings.Disk.Program
import ServiceBindings.Proofs.Disk.Operation

/-!
# What actions leave alone

An action touches no files but those to which its paths lead: creating directories touches
none, writing one, and moving two.
-/

namespace ServiceBindings.Disk

/-- Whether a path leads to a location. -/
def LeadsTo (disk : Disk) (path : String) (location : Location) : Prop :=
  ∃ target, disk.locate path = .ok target ∧ target.location = location

theorem Names.leadsTo {disk : Disk} {path : String} {location : Location}
    (names : disk.Names path location) : disk.LeadsTo path location := by
  rcases names with ⟨directory, name, located, isLocation⟩
  exact ⟨_, located, isLocation⟩

theorem Grows.leadsTo {before after : Disk} (grows : Grows before after) {path : String}
    {location : Location} (leads : before.LeadsTo path location) :
    after.LeadsTo path location := by
  rcases leads with ⟨target, located, isLocation⟩
  exact ⟨target, grows.locate located, isLocation⟩

/-- Whether a disk grows into another one that has the same files, apart from those to which
one of some paths leads at the end. -/
structure ConfinedTo (paths : List String) (before after : Disk) : Prop where
  grows : Grows before after
  keeps : ∀ location octets, before.find? location = some (.file octets) →
    (∀ path ∈ paths, ¬after.LeadsTo path location) → after.find? location = some (.file octets)

namespace ConfinedTo

theorem refl (paths : List String) (disk : Disk) : ConfinedTo paths disk disk :=
  ⟨.refl disk, fun _ _ stored _ => stored⟩

theorem trans {paths : List String} {before middle after : Disk}
    (first : ConfinedTo paths before middle) (second : ConfinedTo paths middle after) :
    ConfinedTo paths before after := by
  refine ⟨first.grows.trans second.grows, ?_⟩
  intro location octets stored foreign
  apply second.keeps location octets _ foreign
  apply first.keeps location octets stored
  intro path member leads
  exact foreign path member (second.grows.leadsTo leads)

theorem mono {paths more : List String} (subset : paths ⊆ more) {before after : Disk}
    (confined : ConfinedTo paths before after) : ConfinedTo more before after := by
  refine ⟨confined.grows, ?_⟩
  intro location octets stored foreign
  exact confined.keeps location octets stored fun path member => foreign path (subset member)

section Place

variable {disk : Disk} {path : String} {location : Location}
  (names : disk.Names path location) (free : disk.find? location ≠ some .directory)

include names free

theorem put (new : Entry) : ConfinedTo [path] disk (disk.put location new) := by
  have grows := names.grows_put free new
  refine ⟨grows, ?_⟩
  intro query octets stored foreign
  apply find?_put_of_ne names.ne_nil new stored _ free
  intro same
  subst same
  exact foreign path (by simp) (grows.leadsTo names.leadsTo)

theorem remove : ConfinedTo [path] disk (disk.remove location) := by
  have grows : Grows disk (disk.remove location) := .remove names.ne_nil free
  refine ⟨grows, ?_⟩
  intro query octets stored foreign
  have different : query ≠ location := by
    intro same
    subst same
    exact foreign path (by simp) (grows.leadsTo names.leadsTo)
  rw [find?_remove disk names.ne_nil free, if_neg different]
  exact stored

end Place

end ConfinedTo

/-! ## Creating directories -/

theorem confined_makeDirectory {disk made : Disk} {path : String}
    (isMade : disk.makeDirectory path = .ok made) : ConfinedTo [] disk made := by
  rcases makeDirectory_eq_ok_iff.mp isMade with ⟨location, names, absent, rfl⟩
  have free : disk.find? location ≠ some .directory := by simp [absent]
  refine ⟨names.grows_put free _, ?_⟩
  intro query octets stored _
  apply find?_put_of_ne names.ne_nil _ stored _ free
  intro same
  subst same
  rw [absent] at stored
  cases stored

theorem confined_createDirectories (disk : Disk) (path : String) :
    ConfinedTo [] disk (disk.createDirectories path).1 :=
  createDirectories_induct (ConfinedTo []) (.refl []) .trans (fun _ => confined_makeDirectory)
    confined_makeDirectory disk

/-! ## Writing and moving files -/

theorem confined_write {disk written : Disk} {path : String} {octets : List UInt8}
    (isWritten : disk.write path octets = .ok written) : ConfinedTo [path] disk written := by
  rcases write_eq_ok_iff.mp isWritten with ⟨location, names, _, free, rfl⟩
  exact .put names free _

theorem confined_rename {disk moved : Disk} {source destination : String}
    (isMoved : disk.rename source destination = .ok moved) :
    ConfinedTo [source, destination] disk moved := by
  rcases rename_eq_ok_iff.mp isMoved with
    ⟨origin, place, octets, namesOrigin, namesPlace, stored, free, rfl⟩
  have originFree : disk.find? origin ≠ some .directory := by simp [stored]
  have removed := ConfinedTo.remove namesOrigin originFree
  have stillFree : (disk.remove origin).find? place ≠ some .directory := by
    rw [find?_remove disk namesOrigin.ne_nil originFree]
    split
    · simp
    · exact free
  have put := ConfinedTo.put (removed.grows.names namesPlace) stillFree (.file octets)
  have removedInBoth : ConfinedTo [source, destination] disk _ := removed.mono (by simp)
  exact removedInBoth.trans (put.mono (by simp))

namespace Action

/-- The paths to files that an action may touch. -/
def filePaths : Action → List String
  | createDirectories _ => []
  | write path _ => [path]
  | rename source destination => [source, destination]

/-- What a single action does is confined to its paths. -/
theorem confined_perform (disk : Disk) (action : Action) :
    ConfinedTo action.filePaths disk (action.perform disk).1 := by
  cases action with
  | createDirectories path => exact confined_createDirectories disk path
  | write path octets =>
      cases written : disk.write path octets with
      | error fault =>
          rw [perform, written]
          exact .refl _ disk
      | ok after =>
          rw [perform, written]
          exact confined_write written
  | rename source destination =>
      cases moved : disk.rename source destination with
      | error fault =>
          rw [perform, moved]
          exact .refl _ disk
      | ok after =>
          rw [perform, moved]
          exact confined_rename moved

end Action

end ServiceBindings.Disk
