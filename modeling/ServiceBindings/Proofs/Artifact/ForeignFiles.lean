import ServiceBindings.Proofs.Artifact.HomeDirectory
import ServiceBindings.Proofs.Disk.Interruption

/-!
# Files beside exported ones

An export touches the places of its artifacts and the places where artifacts are written
before they are moved.  All other files stay as they are, wherever the export stops on its way,
even in the middle of an action.  A file that happens to have the name of a temporary one is lost.
-/

namespace ServiceBindings.Artifact

open Disk (Action ConfinedTo Location Program joinPath)

/-- The paths to the files that the export of a tree below a base directory writes. -/
def Tree.writtenPaths (tree : Tree) (base : String) : List String :=
  tree.paths.flatMap fun path =>
    [temporaryPath (joinPath base path), joinPath base path]

theorem filePaths_exportActions (tree : Tree) (base : String) :
    (tree.exportActions base).flatMap Action.filePaths ⊆ tree.writtenPaths base := by
  intro written member
  rcases List.mem_flatMap.mp member with ⟨action, actionMember, inFilePaths⟩
  rw [Tree.exportActions] at actionMember
  split at actionMember
  · cases actionMember
  · rcases List.mem_cons.mp actionMember with rfl | inRest
    · cases inFilePaths
    · rcases List.mem_append.mp inRest with inDirectories | inFiles
      · rcases List.mem_map.mp inDirectories with ⟨directory, _, rfl⟩
        cases inFilePaths
      · rcases List.mem_flatMap.mp inFiles with ⟨entry, entryMember, inFileActions⟩
        refine List.mem_flatMap.mpr ⟨entry.1, List.mem_map_of_mem entryMember, ?_⟩
        rw [fileActions, List.mem_cons, List.mem_singleton] at inFileActions
        rcases inFileActions with rfl | rfl
        · exact List.mem_cons.mpr (.inl (List.mem_singleton.mp inFilePaths))
        · exact inFilePaths

/-- However an export ends, it has ended where its actions did. -/
theorem exists_mayEnd_of_exportTo {tree : Tree} {home? : Option String} {base : String}
    (noTilde : base.toList.head? ≠ some '~') {before after : Disk}
    {result : Except ArtifactError Unit}
    (ends : (tree.exportTo home? base).MayEnd before result after) :
    ∃ failure?, (Program.performAll (tree.exportActions base)).MayEnd before failure? after := by
  rw [Tree.exportTo, expandHome_of_noTilde home? noTilde] at ends
  rcases ends.of_andThen with ⟨failure?, middle, performed, isDone⟩
  cases isDone
  exact ⟨failure?, performed⟩

/-- An export, wherever it stops, keeps every file to which neither the path of an artifact nor
the temporary path beside it leads. -/
theorem exportTo_keeps_foreign_files (tree : Tree) (home? : Option String) {base : String}
    (noTilde : base.toList.head? ≠ some '~') {before after : Disk}
    {result : Except ArtifactError Unit}
    (ends : (tree.exportTo home? base).MayEnd before result after) {location : Location}
    {octets : List UInt8} (stored : before.find? location = some (.file octets))
    (foreign : ∀ path ∈ tree.paths, ¬after.LeadsTo (joinPath base path) location)
    (notTemporary : ∀ path ∈ tree.paths,
      ¬after.LeadsTo (temporaryPath (joinPath base path)) location) :
    after.find? location = some (.file octets) := by
  rcases exists_mayEnd_of_exportTo noTilde ends with ⟨failure?, performed⟩
  have confined := performed.confined.mono (filePaths_exportActions tree base)
  apply confined.keeps location octets stored
  intro written member
  rcases List.mem_flatMap.mp member with ⟨path, pathMember, inPair⟩
  rw [List.mem_cons, List.mem_singleton] at inPair
  rcases inPair with rfl | rfl
  · exact notTemporary path pathMember
  · exact foreign path pathMember

/-- A tree of one artifact `a`. -/
def Tree.single : Tree := Tree.empty.put ⟨"a", by decide⟩ "x"

/-- A disk with two files in a directory `out`, one of which has the name of a temporary file. -/
def diskWithTemporary : Disk :=
  ⟨[], none, [("out", .directory [("a.tmp", .file [1]), ("b", .file [2])])]⟩

theorem not_leadsTo_of_locate {disk : Disk} {path : String} {target : Disk.Target}
    {location : Location} (located : disk.locate path = .ok target)
    (different : target.location ≠ location) : ¬disk.LeadsTo path location := by
  intro given
  rcases given with ⟨other, otherLocated, isLocation⟩
  rw [located] at otherLocated
  cases otherLocated
  exact different isLocation

/-- That disk after the writing of `Tree.single` to `out` has stopped halfway. -/
def diskWithPartInTemporary : Disk :=
  ⟨[], none, [("out", .directory [("a.tmp", .file []), ("b", .file [2])])]⟩

theorem exportTo_keeps_foreign_files_halfway :
    ∃ result,
      (Tree.single.exportTo none "out").MayEnd diskWithTemporary result diskWithPartInTemporary ∧
        diskWithTemporary.find? ["out", "b"] = some (.file [2]) ∧
          diskWithPartInTemporary.find? ["out", "b"] = some (.file [2]) := by
  have halfWritten : diskWithTemporary.write "out/a.tmp" [] = .ok diskWithPartInTemporary := rfl
  have ends : (Tree.single.exportTo none "out").MayEnd diskWithTemporary
      (.error (.disk "out/a.tmp" (.other "No space left on device (os error 28)")))
      diskWithPartInTemporary :=
    .change (.performed _) (.change (.writtenInPart "out/a.tmp" [120] halfWritten _) (.done _ _))
  refine ⟨_, ends, rfl, exportTo_keeps_foreign_files Tree.single none (by decide) ends rfl ?_ ?_⟩
  · intro path member
    rw [List.mem_singleton.mp (show path ∈ ["a"] from member)]
    exact not_leadsTo_of_locate (show _ = Except.ok ⟨["out"], some "a"⟩ from rfl) (by decide)
  · intro path member
    rw [List.mem_singleton.mp (show path ∈ ["a"] from member)]
    exact not_leadsTo_of_locate (show _ = Except.ok ⟨["out"], some "a.tmp"⟩ from rfl) (by decide)

/-- A successful export does not keep all files that are not artifacts of it: one with the name
of a temporary file is gone. -/
theorem not_exportTo_keeps_other_files :
    ¬∀ (tree : Tree) (home? : Option String) (base : String) (disk : Disk)
      (location : Location) (octets : List UInt8),
      base.toList.head? ≠ some '~' →
      ((tree.exportTo home? base).run disk).1 = .ok () →
      disk.find? location = some (.file octets) →
      (∀ path ∈ tree.paths,
        ¬((tree.exportTo home? base).run disk).2.LeadsTo (joinPath base path) location) →
      ((tree.exportTo home? base).run disk).2.find? location = some (.file octets) := by
  intro keeps
  have kept := keeps Tree.single none "out" diskWithTemporary ["out", "a.tmp"] [1] (by decide)
    rfl rfl (by
      intro path member
      rw [List.mem_singleton.mp (show path ∈ ["a"] from member)]
      exact not_leadsTo_of_locate (show _ = Except.ok ⟨["out"], some "a"⟩ from rfl) (by decide))
  have gone : ((Tree.single.exportTo none "out").run diskWithTemporary).2.find?
      ["out", "a.tmp"] = none := rfl
  rw [gone] at kept
  cases kept

end ServiceBindings.Artifact
