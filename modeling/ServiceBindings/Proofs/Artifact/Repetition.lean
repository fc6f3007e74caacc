import ServiceBindings.Proofs.Artifact.Directories
import ServiceBindings.Proofs.Artifact.Export

/-!
# Exporting a tree again

A successful export leaves every artifact in its place, with its content and nothing else.  What
it did can be done again: its directories are there, and its places can be written.  The second
export leaves everything as the first one left it.
-/

namespace ServiceBindings.Artifact

open Disk (Grows Performs isAbsolute joinPath)

variable {before after : Disk} {base : String} {tree : Tree}

theorem performs_directoryActions_again {directories : List String} {later : Disk}
    (valid : ∀ directory ∈ directories, isPath directory = true)
    (hasStart : before.HasStart (isAbsolute base))
    (performed : Performs (directoryActions base directories) before after)
    (grows : Grows after later) : Performs (directoryActions base directories) later later := by
  induction directories generalizing before with
  | nil => exact Disk.performs_nil_iff.mpr rfl
  | cons directory rest ih =>
      rcases performs_directoryActions_cons_iff.mp performed with ⟨middle, created, others⟩
      have first := Disk.grows_of_createDirectories created
      have directoryStart : before.HasStart (isAbsolute (joinPath base directory)) := by
        rw [isAbsolute_joinPath base (valid directory (List.mem_cons_self ..))]
        exact hasStart
      have again := Disk.createDirectories_again directoryStart created (others.grows.trans grows)
      have restAgain := ih (fun other member => valid other (List.mem_cons_of_mem _ member))
        (first.hasStart hasStart) others
      exact performs_directoryActions_cons_iff.mpr ⟨later, again, restAgain⟩

/-- What an export leaves: there is a root to which the base leads, every place for an artifact
below it is writable, and the files were written on a disk which has all directories. -/
theorem exists_written_of_performs (nonempty : tree.isEmpty = false)
    (hasStart : before.HasStart (isAbsolute base))
    (performed : Performs (tree.exportActions base) before after) :
    ∃ directed root, IsBase after base root ∧
      (∀ entry ∈ tree.contents.entries, Writable after base root entry.1) ∧
        Written tree.contents.entries root directed after := by
  rcases (performs_exportActions_iff nonempty).mp performed with
    ⟨based, directed, created, inDirectories, inFiles⟩
  have toBased := Disk.grows_of_createDirectories created
  rcases IsBase.of_createDirectories hasStart created with ⟨root, isBase⟩
  have directedBase := isBase.of_grows inDirectories.grows
  refine ⟨directed, root, directedBase.of_grows inFiles.grows, ?_, ?_⟩
  · intro entry member
    exact writable_of_performs_filesActions tree.isPath directedBase inFiles member
  · exact written_of_performs tree.contents.ascending tree.isPath directedBase inFiles

/-- An export that succeeded once succeeds again, and leaves what was left. -/
theorem exists_performs_again (hasStart : before.HasStart (isAbsolute base))
    (performed : Performs (tree.exportActions base) before after) :
    ∃ again, Performs (tree.exportActions base) after again ∧
      ∀ location, again.find? location = after.find? location := by
  cases isEmpty : tree.isEmpty with
  | true => exact ⟨after, (performs_exportActions_of_isEmpty isEmpty).mpr rfl, fun _ => rfl⟩
  | false =>
      rcases exists_written_of_performs isEmpty hasStart performed with
        ⟨directed, root, isBase, writable, written⟩
      rcases exists_performs_filesActions tree.isPath isBase writable with
        ⟨again, inFilesAgain⟩
      have writtenAgain :=
        written_of_performs tree.contents.ascending tree.isPath isBase inFilesAgain
      rcases (performs_exportActions_iff isEmpty).mp performed with
        ⟨based, _, created, inDirectories, inFiles⟩
      have toBased := Disk.grows_of_createDirectories created
      have directoriesValid : ∀ directory ∈ tree.directories, isPath directory = true :=
        fun directory => Tree.isPath_of_mem_directories
      have createdAgain := Disk.createDirectories_again hasStart created
        (inDirectories.grows.trans inFiles.grows)
      have inDirectoriesAgain := performs_directoryActions_again directoriesValid
        (toBased.hasStart hasStart) inDirectories inFiles.grows
      exact ⟨again, (performs_exportActions_iff isEmpty).mpr
        ⟨after, after, createdAgain, inDirectoriesAgain, inFilesAgain⟩,
        written.again writtenAgain⟩

/-- After a successful export every artifact can be read at its path below the base. -/
theorem read_of_performs (hasStart : before.HasStart (isAbsolute base))
    (performed : Performs (tree.exportActions base) before after) {path content : String}
    (member : (path, content) ∈ tree.contents.entries) :
    after.read (joinPath base path) = .ok (Text.Utf8.encode content) := by
  have nonempty : tree.isEmpty = false := by
    rw [Tree.isEmpty, Dictionary.isEmpty, List.isEmpty_eq_false_iff]
    exact List.ne_nil_of_mem member
  rcases exists_written_of_performs nonempty hasStart performed with
    ⟨directed, root, _, writable, written⟩
  exact Disk.read_of_names (writable _ member).names
    (endsInSlash_joinPath base (tree.isPath _ member)) (written.stored _ member)

/-- After a successful export every artifact is a file with its content, and the same export
succeeds once more and leaves everything as it is.  There are only regular files and directories on
the disk: were two places linked to one file, an artifact could be given the content of another, and
what is written to a pipe or a device cannot be read back. -/
theorem exportTo_exact_repeatable (tree : Tree) (home? : Option String) {base : String}
    (noTilde : base.toList.head? ≠ some '~') {disk : Disk}
    (hasStart : disk.HasStart (isAbsolute base)) {after : Disk}
    (succeeds : (tree.exportTo home? base).run disk = (.ok (), after)) :
    (∀ entry ∈ tree.contents.entries,
      after.read (joinPath base entry.1) = .ok (Text.Utf8.encode entry.2)) ∧
      ∃ again, (tree.exportTo home? base).run after = (.ok (), again) ∧
        ∀ location, again.find? location = after.find? location := by
  have performed := (run_exportTo_eq_ok_iff home? noTilde).mp succeeds
  rcases exists_performs_again hasStart performed with ⟨again, performedAgain, same⟩
  refine ⟨?_, again, (run_exportTo_eq_ok_iff home? noTilde).mpr performedAgain, same⟩
  intro entry member
  exact read_of_performs hasStart performed member

/-- A tree in which one artifact has the temporary path of another one. -/
def Tree.overlapping : Tree := Tree.single.put ⟨"a.tmp", by decide⟩ "y"

/-- What is left on an empty disk when that tree was exported to `out`. -/
def diskOfOverlapping : Disk :=
  ⟨[], none, [("out", .directory [("a", .file [120]), ("a.tmp", .file [121])])]⟩

theorem exportTo_exact_repeatable_overlapping :
    (Tree.overlapping.exportTo none "out").run ⟨[], none, []⟩ = (.ok (), diskOfOverlapping) ∧
      diskOfOverlapping.read "out/a.tmp" = .ok [121] ∧
        ∃ again, (Tree.overlapping.exportTo none "out").run diskOfOverlapping = (.ok (), again) ∧
          ∀ location, again.find? location = diskOfOverlapping.find? location := by
  have succeeds : (Tree.overlapping.exportTo none "out").run ⟨[], none, []⟩ =
      (.ok (), diskOfOverlapping) := rfl
  have hasStart : Disk.HasStart ⟨[], none, []⟩ (isAbsolute "out") := rfl
  have exact := exportTo_exact_repeatable Tree.overlapping none (by decide) hasStart succeeds
  exact ⟨succeeds, exact.1 ("a.tmp", "y") (by decide), exact.2⟩

end ServiceBindings.Artifact
