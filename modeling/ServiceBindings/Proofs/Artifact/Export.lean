import ServiceBindings.Proofs.Artifact.ForeignFiles
import ServiceBindings.Proofs.Artifact.Writing

/-!
# The parts of an export

An export creates its base, then the directories of the tree in it, and then writes the files.
It succeeds if all that does.
-/

namespace ServiceBindings.Artifact

open Disk (Action Performs joinPath)

variable {before after : Disk} {base : String} {tree : Tree}

/-- The actions that create directories below a base directory. -/
def directoryActions (base : String) (directories : List String) : List Action :=
  directories.map fun directory => .createDirectories (joinPath base directory)

theorem performs_directoryActions_cons_iff {directory : String} {rest : List String} :
    Performs (directoryActions base (directory :: rest)) before after ↔
      ∃ middle, before.createDirectories (joinPath base directory) = (middle, none) ∧
        Performs (directoryActions base rest) middle after :=
  Disk.performs_cons_iff

theorem performs_exportActions_of_isEmpty (isEmpty : tree.isEmpty = true) :
    Performs (tree.exportActions base) before after ↔ after = before := by
  rw [Tree.exportActions, if_pos isEmpty, Disk.performs_nil_iff]

/-- An export creates the base, then the directories of the tree, and then writes its files. -/
theorem performs_exportActions_iff (nonempty : tree.isEmpty = false) :
    Performs (tree.exportActions base) before after ↔
      ∃ based directed, before.createDirectories base = (based, none) ∧
        Performs (directoryActions base tree.directories) based directed ∧
          Performs (filesActions base tree.contents.entries) directed after := by
  rw [Tree.exportActions, if_neg (by simp [nonempty]), Disk.performs_cons_iff]
  constructor
  · intro given
    rcases given with ⟨based, created, others⟩
    rcases Disk.performs_append_iff.mp others with ⟨directed, inDirectories, inFiles⟩
    exact ⟨based, directed, created, inDirectories, inFiles⟩
  · intro given
    rcases given with ⟨based, directed, created, inDirectories, inFiles⟩
    exact ⟨based, created, Disk.performs_append_iff.mpr ⟨directed, inDirectories, inFiles⟩⟩

/-- An export succeeds if its base can be read and all its actions succeed. -/
theorem run_exportTo_eq_ok_iff_exists {home? : Option String} :
    (tree.exportTo home? base).run before = (.ok (), after) ↔
      ∃ expanded, expandHome home? base = .ok expanded ∧
        Performs (tree.exportActions expanded) before after := by
  rw [Tree.exportTo]
  cases isExpanded : expandHome home? base with
  | error error => simp [Disk.Program.run]
  | ok expanded =>
      simp only [Disk.Program.run_andThen, Disk.Program.run, Performs, Except.ok.injEq,
        exists_eq_left']
      rcases (Disk.Program.performAll (tree.exportActions expanded)).run before with
        ⟨failure?, left⟩
      cases failure? with
      | none => simp
      | some failure => simp

theorem run_exportTo_eq_ok_iff (home? : Option String)
    (noTilde : base.toList.head? ≠ some '~') :
    (tree.exportTo home? base).run before = (.ok (), after) ↔
      Performs (tree.exportActions base) before after := by
  rw [run_exportTo_eq_ok_iff_exists, expandHome_of_noTilde home? noTilde]
  simp

end ServiceBindings.Artifact
