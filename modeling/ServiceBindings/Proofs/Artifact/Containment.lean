import ServiceBindings.Proofs.Artifact.Directories
import ServiceBindings.Proofs.Artifact.Export
import ServiceBindings.Proofs.Disk.Interruption

/-!
# Exports stay below their base

An export creates the base and what is missing above it.  All else that it changes lies below the
base, at the places that the tree names: its directories, its artifacts, and the temporary paths
beside these.  This holds wherever the export stops, even in the middle of an action.
-/

namespace ServiceBindings.Artifact

open Disk (Action Grows Location isAbsolute joinPath steps)

/-- How the export of a tree to a root may have changed what is at a location below it. -/
inductive Tree.TouchesBelow (tree : Tree) (root : Location) (before after : Disk)
    (location : Location) : Prop where
  /-- A directory of the tree is there now and was not before. -/
  | directory {directory : String} (member : directory ∈ tree.directories)
      (isPlace : location = place root directory) (absent : before.find? location = none)
      (isDirectory : after.find? location = some .directory)
  /-- It is the place of an artifact. -/
  | artifact {path : String} (member : path ∈ tree.paths) (isPlace : location = place root path)
  /-- It is where a file is written on its way to the place of an artifact. -/
  | temporary {path : String} (member : path ∈ tree.paths)
      (isPlace : location = place root (temporaryPath path))

namespace Tree.TouchesBelow

variable {tree : Tree} {root : Location} {before after : Disk} {location : Location}

theorem of_same_before (touches : tree.TouchesBelow root before after location) {earlier : Disk}
    (same : before.find? location = earlier.find? location) :
    tree.TouchesBelow root earlier after location := by
  cases touches with
  | directory member isPlace absent isDirectory =>
      exact .directory member isPlace (same ▸ absent) isDirectory
  | artifact member isPlace => exact .artifact member isPlace
  | temporary member isPlace => exact .temporary member isPlace

theorem of_grows (touches : tree.TouchesBelow root before after location) {later : Disk}
    (grows : Grows after later) : tree.TouchesBelow root before later location := by
  cases touches with
  | directory member isPlace absent isDirectory =>
      exact .directory member isPlace absent (grows.directories _ isDirectory)
  | artifact member isPlace => exact .artifact member isPlace
  | temporary member isPlace => exact .temporary member isPlace

end Tree.TouchesBelow

/-- How the export of a tree to a base may have changed what is at a location. -/
inductive Tree.Touches (tree : Tree) (base : String) (before after : Disk)
    (location : Location) : Prop where
  /-- The base or something above it is a directory now and was not there before. -/
  | above {front : List String} (isFront : front <+: steps base)
      (leads : after.follow (after.start (isAbsolute base)) front = .ok location)
      (absent : before.find? location = none)
      (isDirectory : after.find? location = some .directory)
  /-- It is something that the tree names below the base. -/
  | below {root : Location} (isBase : IsBase after base root)
      (touches : tree.TouchesBelow root before after location)

/-- What the actions after the creation of the base keep: the base leads to the same root, and
only what the tree names below it has changed. -/
structure Contained (tree : Tree) (base : String) (root : Location) (before after : Disk) :
    Prop where
  grows : Grows before after
  isBase : IsBase after base root
  changes : ∀ location, after.find? location ≠ before.find? location →
    tree.TouchesBelow root before after location

variable {tree : Tree} {base : String} {root : Location} {start before after : Disk}

namespace Contained

theorem refl (isBase : IsBase before base root) : Contained tree base root before before :=
  ⟨.refl before, isBase, fun _ differs => absurd rfl differs⟩

/-- One more change to what the tree names. -/
theorem step (contained : Contained tree base root start before) (grows : Grows before after)
    (changes : ∀ location, after.find? location ≠ before.find? location →
      tree.TouchesBelow root before after location) :
    Contained tree base root start after := by
  refine ⟨contained.grows.trans grows, contained.isBase.of_grows grows, ?_⟩
  intro location differs
  by_cases changedBefore : before.find? location = start.find? location
  · rw [← changedBefore] at differs
    exact (changes location differs).of_same_before changedBefore
  · exact (contained.changes location changedBefore).of_grows grows

section Actions

variable (contained : Contained tree base root start before) {fault? : Option Disk.Fault}

include contained

theorem createDirectories {directory : String} (member : directory ∈ tree.directories)
    (ends : (Action.createDirectories (joinPath base directory)).MayEnd before after fault?) :
    Contained tree base root start after := by
  have valid := Tree.isPath_of_mem_directories member
  have deepens := ends.deepens (contained.isBase.hasStart_joinPath valid)
  refine contained.step deepens.grows ?_
  intro location differs
  rcases contained.isBase.exists_place_of_deepens valid deepens differs with
    ⟨absent, isDirectory, front, isPrefix, isPlace⟩
  exact .directory (Tree.mem_directories_of_prefix member isPrefix) isPlace absent isDirectory

theorem write {path : String} {octets : List UInt8} (member : path ∈ tree.paths)
    (ends : (Action.write (joinPath base (temporaryPath path)) octets).MayEnd before after
      fault?) :
    Contained tree base root start after := by
  have valid := isPath_temporaryPath (Tree.isPath_of_mem_paths member)
  rcases ends.write_cases with rfl | ⟨content, isWritten⟩
  · exact contained
  · rcases Disk.write_eq_ok_iff.mp isWritten with ⟨place, names, _, free, rfl⟩
    refine contained.step (names.grows_put free _) ?_
    intro location differs
    have hasStart := contained.isBase.hasStart_joinPath valid
    have atPlace := names.eq_of_find?_put_ne hasStart free differs
    exact .temporary member (atPlace.trans (contained.isBase.eq_place_of_names valid names))

theorem rename {path : String} (member : path ∈ tree.paths)
    (ends : (Action.rename (joinPath base (temporaryPath path)) (joinPath base path)).MayEnd
      before after fault?) :
    Contained tree base root start after := by
  have valid := Tree.isPath_of_mem_paths member
  rcases ends.rename_cases with rfl | isMoved
  · exact contained
  · have grows := (Disk.confined_rename isMoved).grows
    rcases Disk.rename_eq_ok_iff.mp isMoved with
      ⟨origin, place, octets, namesOrigin, namesPlace, stored, free, rfl⟩
    have isOrigin :=
      contained.isBase.eq_place_of_names (isPath_temporaryPath valid) namesOrigin
    have isPlace := contained.isBase.eq_place_of_names valid namesPlace
    refine contained.step grows ?_
    intro location differs
    have hasStart := contained.isBase.hasStart_joinPath valid
    rw [Disk.find?_rename hasStart namesOrigin namesPlace stored free] at differs
    by_cases atPlace : location = place
    · exact .artifact member (atPlace.trans isPlace)
    · by_cases atOrigin : location = origin
      · exact .temporary member (atOrigin.trans isOrigin)
      · rw [if_neg atPlace, if_neg atOrigin] at differs
        exact absurd rfl differs

/-- Every action of an export after the first one keeps to what the tree names, however it
ends. -/
theorem of_mayEnd {action : Action}
    (member : action ∈ directoryActions base tree.directories ++
      filesActions base tree.contents.entries)
    (ends : action.MayEnd before after fault?) : Contained tree base root start after := by
  rcases List.mem_append.mp member with inDirectories | inFiles
  · rcases List.mem_map.mp inDirectories with ⟨directory, directoryMember, rfl⟩
    exact contained.createDirectories directoryMember ends
  · rcases List.mem_flatMap.mp inFiles with ⟨entry, entryMember, inEntry⟩
    have pathMember : entry.1 ∈ tree.paths := List.mem_map_of_mem entryMember
    rw [fileActions, temporaryPath_joinPath base (tree.isPath entry entryMember),
      List.mem_cons, List.mem_singleton] at inEntry
    rcases inEntry with rfl | rfl
    · exact contained.write pathMember ends
    · exact contained.rename pathMember ends

end Actions

end Contained

/-- An export that ends has done no more than to make directories for its base, or it has created
the base and has gone on with the tree. -/
theorem exists_based_of_mayEnd (hasStart : before.HasStart (isAbsolute base))
    {failure? : Option Disk.Failure}
    (ends : Disk.Program.MayEnd before (Disk.Program.performAll (tree.exportActions base))
      failure? after) :
    ∃ based, Disk.Deepens (isAbsolute base) (steps base) before based ∧
      (after = based ∨ ∃ root, IsBase based base root ∧
        (Disk.Program.performAll (directoryActions base tree.directories ++
          filesActions base tree.contents.entries)).MayEnd based failure? after) := by
  rw [Tree.exportActions] at ends
  split at ends
  · cases ends
    exact ⟨before, .refl _ _ _, .inl rfl⟩
  · cases ends with
    | @change _ based _ _ _ fault? _ first rest =>
        refine ⟨based, first.deepens hasStart, ?_⟩
        cases fault? with
        | some fault =>
            cases rest
            exact .inl rfl
        | none =>
            rcases IsBase.of_createDirectories hasStart first.perform_eq_of_none with
              ⟨root, isBase⟩
            exact .inr ⟨root, isBase, rest⟩

/-- However the actions of an export end, they change nothing but what they may touch. -/
theorem touches_of_mayEnd (hasStart : before.HasStart (isAbsolute base))
    {failure? : Option Disk.Failure}
    (ends : Disk.Program.MayEnd before (Disk.Program.performAll (tree.exportActions base))
      failure? after)
    {location : Location} (differs : after.find? location ≠ before.find? location) :
    tree.Touches base before after location := by
  rcases exists_based_of_mayEnd hasStart ends with ⟨based, deepens, rfl | ⟨root, isBase, rest⟩⟩
  · rcases deepens.made location differs with ⟨absent, isDirectory, front, isFront, leads⟩
    exact .above isFront leads absent isDirectory
  · have contained : Contained tree base root based after :=
      rest.preserves (fun action member _ _ _ held ended => held.of_mayEnd member ended)
        (.refl isBase)
    by_cases changedFirst : based.find? location = before.find? location
    · rw [← changedFirst] at differs
      exact .below contained.isBase
        ((contained.changes location differs).of_same_before changedFirst)
    · rcases deepens.made location changedFirst with
        ⟨absent, isDirectory, front, isFront, leads⟩
      refine .above isFront ?_ absent (contained.grows.directories _ isDirectory)
      rw [contained.grows.start]
      exact contained.grows.follow leads

/-- An export, wherever it stops, changes nothing but the base and what is above it, where
directories may be new, and what the tree names below the base.  There are only regular files and
directories on the disk: a link below the base could lead out of it. -/
theorem exportTo_stays_below_base (tree : Tree) (home? : Option String) {base : String}
    (noTilde : base.toList.head? ≠ some '~') {before after : Disk}
    (hasStart : before.HasStart (isAbsolute base)) {result : Except ArtifactError Unit}
    (ends : (tree.exportTo home? base).MayEnd before result after) {location : Location}
    (differs : after.find? location ≠ before.find? location) :
    tree.Touches base before after location := by
  rcases exists_mayEnd_of_exportTo noTilde ends with ⟨failure?, performed⟩
  exact touches_of_mayEnd hasStart performed differs

/-- A disk on which writing the file of `Tree.single` in `out` stopped halfway. -/
def diskWithPart : Disk := ⟨[], none, [("out", .directory [("a.tmp", .file [])])]⟩

theorem exportTo_stays_below_base_halfway :
    ∃ result, (Tree.single.exportTo none "out").MayEnd ⟨[], none, []⟩ result diskWithPart ∧
      Tree.single.Touches "out" ⟨[], none, []⟩ diskWithPart ["out", "a.tmp"] := by
  have hasStart : Disk.HasStart ⟨[], none, []⟩ (isAbsolute "out") := rfl
  have halfWritten : (⟨[], none, [("out", .directory [])]⟩ : Disk).write "out/a.tmp" [] =
      .ok diskWithPart := rfl
  have ends : (Tree.single.exportTo none "out").MayEnd ⟨[], none, []⟩
      (.error (.disk "out/a.tmp" (.other "No space left on device (os error 28)"))) diskWithPart :=
    .change (.performed _) (.change (.writtenInPart "out/a.tmp" [120] halfWritten _) (.done _ _))
  exact ⟨_, ends, exportTo_stays_below_base Tree.single none (by decide) hasStart ends
    (by decide)⟩

end ServiceBindings.Artifact
