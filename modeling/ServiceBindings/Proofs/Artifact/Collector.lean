import Mathlib.Algebra.Ring.Nat
import Mathlib.Data.List.Nodup
import ServiceBindings.Artifact.Collector
import ServiceBindings.Proofs.Dictionary

/-!
# What collectors refuse

A collector refuses an artifact whose path is malformed or taken.  All errors that it meets
are listed by `Collector.errors`, and the first of them is the one that it keeps.
-/

namespace ServiceBindings.Artifact

theorem Path.text_of_ofText {text : String} {path : Path} (isPath : Path.ofText text = .ok path) :
    path.text = text := by
  rw [ofText] at isPath
  split at isPath
  · cases isPath
  · split at isPath
    · cases isPath
      rfl
    · cases isPath

theorem Path.isInvalidPath_of_ofText {text : String} {error : ArtifactError}
    (malformed : Path.ofText text = .error error) : error.isInvalidPath = true := by
  rw [ofText] at malformed
  split at malformed
  · cases malformed
    rfl
  · split at malformed
    · cases malformed
    · cases malformed
      rfl

/-- What becomes of an artifact: its path is malformed, or taken, or it is added. -/
theorem Tree.add_cases (tree : Tree) (path content : String) :
    (∃ error, tree.add path content = .error error ∧ error.isInvalidPath = true) ∨
      (tree.add path content = .error (.duplicate path) ∧
        tree.contents.contains path = true) ∨
      ∃ added, tree.add path content = .ok added ∧ tree.contents.contains path = false ∧
        added.contents = tree.contents.insert path content := by
  rw [add]
  cases isPath : Path.ofText path with
  | error error => exact .inl ⟨error, rfl, Path.isInvalidPath_of_ofText isPath⟩
  | ok valid =>
      have sameText := Path.text_of_ofText isPath
      cases isTaken : tree.contents.contains path with
      | true => exact .inr (.inl (by simp [sameText, isTaken]))
      | false =>
          refine .inr (.inr ⟨tree.put valid content, ?_, rfl, ?_⟩)
          · simp [sameText, isTaken]
          · exact congrArg (tree.contents.insert · content) sameText

namespace Collector

/-- The errors of all artifacts of generated code that a collector refuses, in order. -/
def errors (collector : Collector) : GeneratedCode → List ArtifactError
  | [] => []
  | file :: rest =>
    (match collector.tree.add file.path file.content with
      | .ok _ => []
      | .error error => [error]) ++ (collector.add file.path file.content).errors rest

/-- A collector keeps the errors of all files in order. -/
theorem refusals_addCode (collector : Collector) (code : GeneratedCode) :
    (collector.addCode code).refusals = collector.refusals ++ collector.errors code := by
  induction code generalizing collector with
  | nil => simp [addCode, errors]
  | cons file rest ih =>
      have step : (collector.addCode (file :: rest)).refusals =
          ((collector.add file.path file.content).addCode rest).refusals := rfl
      rw [step, ih, errors, add]
      cases collector.tree.add file.path file.content with
      | ok added => rfl
      | error error => simp only [refuse, List.append_assoc]

theorem build_eq_error_iff {collector : Collector} {error : ArtifactError} :
    collector.build = .error error ↔ collector.refusals.head? = some error := by
  rw [build]
  cases collector.refusals with
  | nil => simp
  | cons first others => simp

theorem build_eq_ok_iff {collector : Collector} {tree : Tree} :
    collector.build = .ok tree ↔ collector.refusals = [] ∧ collector.tree = tree := by
  rw [build]
  cases collector.refusals with
  | nil => simp
  | cons first others => simp

/-- What is reported about generated code in the end is one of the errors of its files. -/
theorem mem_errors_of_build {code : GeneratedCode} {error : ArtifactError}
    (failed : (empty.addCode code).build = .error error) : error ∈ empty.errors code := by
  rw [build_eq_error_iff, refusals_addCode] at failed
  exact List.mem_of_head? failed

/-- A collector that builds a tree in the end had no error before. -/
theorem refusals_of_build {collector : Collector} {code : GeneratedCode} {tree : Tree}
    (built : (collector.addCode code).build = .ok tree) : collector.refusals = [] := by
  rw [build_eq_ok_iff, refusals_addCode, List.append_eq_nil_iff] at built
  exact built.1.1

/-- What a collector builds of generated code has its files beside the older artifacts, each of
them once. -/
theorem perm_entries_of_build {collector : Collector} {code : GeneratedCode} {tree : Tree}
    (built : (collector.addCode code).build = .ok tree) :
    tree.contents.entries.Perm
      (code.map (fun file => (file.path, file.content)) ++ collector.tree.contents.entries) := by
  induction code generalizing collector with
  | nil =>
      have ⟨_, isTree⟩ := build_eq_ok_iff.mp built
      subst isTree
      exact .refl _
  | cons file rest ih =>
      have restBuilt : ((collector.add file.path file.content).addCode rest).build = .ok tree :=
        built
      have noError := refusals_of_build restBuilt
      have inRest := ih restBuilt
      rcases collector.tree.add_cases file.path file.content with
        ⟨error, isRefused, _⟩ | ⟨isRefused, _⟩ | ⟨added, isAdded, isNew, contents⟩
      · simp [add, isRefused, refuse] at noError
      · simp [add, isRefused, refuse] at noError
      · have inserted : (collector.add file.path file.content).tree = added := by
          rw [add, isAdded]
        rw [inserted, contents] at inRest
        rw [Dictionary.contains, Option.isSome_eq_false_iff, Option.isNone_iff_eq_none] at isNew
        have moved := Dictionary.perm_insertEntry_of_absent file.content isNew
        exact inRest.trans ((moved.append_left _).trans List.perm_middle)

/-- The artifacts of generated code that was collected are its files. -/
theorem perm_entries_of_build_empty {code : GeneratedCode} {tree : Tree}
    (built : (empty.addCode code).build = .ok tree) :
    tree.contents.entries.Perm (code.map fun file => (file.path, file.content)) := by
  simpa [empty, Tree.empty, Dictionary.empty] using perm_entries_of_build built

section Built

variable {code : GeneratedCode} {tree : Tree} (built : (empty.addCode code).build = .ok tree)

include built

theorem size_of_build : tree.size = code.length := by
  rw [Tree.size, Dictionary.size, (perm_entries_of_build_empty built).length_eq, List.length_map]

theorem paths_of_build : tree.paths = code.paths.mergeSort := by
  apply Dictionary.keys_eq_mergeSort_of_perm
  simpa [Dictionary.keys, GeneratedCode.paths, Function.comp_def] using
    (perm_entries_of_build_empty built).map (·.1)

theorem octetCount_of_build :
    tree.octetCount = (code.map (·.content.utf8ByteSize)).sum := by
  have perm := (perm_entries_of_build_empty built).map (·.2.utf8ByteSize)
  rw [List.map_map] at perm
  rw [Tree.octetCount, Dictionary.values, List.foldr_map]
  exact (List.sum_eq_foldr.trans List.foldr_map).symm.trans perm.sum_nat

theorem mem_entries_of_build {file : GeneratedFile} (member : file ∈ code) :
    (file.path, file.content) ∈ tree.contents.entries :=
  (perm_entries_of_build_empty built).mem_iff.mpr (List.mem_map_of_mem member)

end Built

theorem contains_add (collector : Collector) (path content other : String)
    (different : other ≠ path) :
    (collector.add path content).tree.contents.contains other =
      collector.tree.contents.contains other := by
  rw [add]
  rcases collector.tree.add_cases path content with
    ⟨error, isRefused, _⟩ | ⟨isRefused, _⟩ | ⟨added, isAdded, _, contents⟩
  · rw [isRefused]
    rfl
  · rw [isRefused]
    rfl
  · rw [isAdded]
    simp [contents, Dictionary.contains, Dictionary.find?_insert, different]

/-- No path is refused as taken if paths are distinct and not taken before. -/
theorem duplicate_notMem_errors {collector : Collector} {code : GeneratedCode}
    (distinct : (code.map (·.path)).Nodup)
    (new : ∀ file ∈ code, collector.tree.contents.contains file.path = false) (path : String) :
    .duplicate path ∉ collector.errors code := by
  induction code generalizing collector with
  | nil => simp [errors]
  | cons file rest ih =>
      rw [List.map_cons, List.nodup_cons] at distinct
      have restNew : ∀ other ∈ rest,
          (collector.add file.path file.content).tree.contents.contains other.path = false := by
        intro other member
        have different : other.path ≠ file.path := by
          intro same
          exact distinct.1 (same ▸ List.mem_map_of_mem member)
        rw [contains_add _ _ _ _ different]
        exact new other (by simp [member])
      have inRest := ih distinct.2 restNew
      rw [errors, List.mem_append, not_or]
      refine ⟨?_, inRest⟩
      rcases collector.tree.add_cases file.path file.content with
        ⟨error, isRefused, isInvalid⟩ | ⟨_, isTaken⟩ | ⟨added, isAdded, _⟩
      · rw [isRefused, List.mem_singleton]
        intro same
        subst same
        cases isInvalid
      · rw [new file (by simp)] at isTaken
        cases isTaken
      · rw [isAdded]
        exact List.not_mem_nil

end Collector

end ServiceBindings.Artifact
