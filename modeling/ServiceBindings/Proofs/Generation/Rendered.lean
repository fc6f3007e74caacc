import ServiceBindings.Proofs.Generation.Checks
import ServiceBindings.Proofs.Java.SourceText
import ServiceBindings.Proofs.Python.SourceText

/-!
# What generators generate

No generator fails on any service, so what is generated for a file is a list of files that
is determined by the namespace table and the file alone.  A run can only fail on its checks
and on its selection.
-/

namespace ServiceBindings

open Schema (File Service)
open Template (standardLibrary)

namespace Generator

/-- The files that a generator generates for a service. -/
def filesOf (generator : Generator) (table : NamespaceTable) (file : File)
    (service : Service) : GeneratedCode :=
  match generator.kind with
  | .contract => CallMode.all.map fun mode =>
      Java.contractFile table file.space service mode generator.root
  | .implementation => CallMode.all.map fun mode =>
      Java.implementationFile table file.space service mode generator.root
  | .binding => [Python.bindingFile file.name service generator.root]
  | .registration => CallMode.all.map fun mode =>
      Java.registration generator.root file.space service mode

variable (generator : Generator) (table : NamespaceTable) (file : File)

theorem generateService_standard (service : Service) :
    generator.generateService standardLibrary table file service =
      .ok (generator.filesOf table file service) := by
  rcases generator with ⟨kind, root⟩
  cases kind with
  | contract =>
      exact mapM_eq_ok _ fun mode _ =>
        Java.contract_standard table file.space service mode root
  | implementation =>
      exact mapM_eq_ok _ fun mode _ =>
        Java.implementation_standard table file.space service mode root
  | binding =>
      rw [generateService, Python.binding_standard]
      rfl
  | registration => rfl

theorem generate_standard :
    generator.generate standardLibrary table file =
      .ok (file.services.flatMap (generator.filesOf table file)) := by
  have computed : file.services.mapM (generator.generateService standardLibrary table file) =
      .ok (file.services.map (generator.filesOf table file)) :=
    mapM_eq_ok _ fun service _ =>
      generateService_standard generator table file service
  rw [generate, computed, List.flatMap_def]
  rfl

end Generator

namespace Generation

/-- The files that generators generate for a file, generator by generator. -/
def filesOf (generators : List Generator) (table : NamespaceTable) (file : File) :
    GeneratedCode :=
  generators.flatMap fun generator => file.services.flatMap (generator.filesOf table file)

theorem generateFile_standard (generators : List Generator) (table : NamespaceTable)
    (file : File) :
    generateFile generators standardLibrary table file =
      .ok (filesOf generators table file) := by
  have computed : (generators.mapM fun generator : Generator =>
      generator.generate standardLibrary table file) =
        .ok (generators.map fun generator =>
          file.services.flatMap (generator.filesOf table file)) :=
    mapM_eq_ok _ fun generator _ => Generator.generate_standard generator table file
  rw [generateFile, computed, filesOf, List.flatMap_def]
  rfl

/-- A run fails only on its checks and its selection. -/
theorem run_eq (generators : List Generator) (files : List File) (selection : List String) :
    run generators files selection = (acceptedSelection files selection).map
      (·.flatMap (filesOf generators (NamespaceTable.ofFiles files))) := by
  rw [run, acceptedSelection, Template.standard_eq]
  cases checkFiles [] files with
  | error error => rfl
  | ok accepted =>
      cases selection.mapM (select files) with
      | error error => rfl
      | ok selected =>
          have computed : selected.mapM
              (generateFile generators standardLibrary (NamespaceTable.ofFiles files)) =
                .ok (selected.map (filesOf generators (NamespaceTable.ofFiles files))) :=
            mapM_eq_ok _ fun file _ =>
              generateFile_standard generators (NamespaceTable.ofFiles files) file
          simp only [bind, Except.bind, Except.map]
          rw [computed, List.flatMap_def]
          rfl

theorem run_eq_ok_iff {generators : List Generator} {files : List File}
    {selection : List String} {code : GeneratedCode} :
    run generators files selection = .ok code ↔
      checkFiles [] files = .ok () ∧ ∃ selected, selection.mapM (select files) = .ok selected ∧
        code = selected.flatMap (filesOf generators (NamespaceTable.ofFiles files)) := by
  rw [run_eq, map_eq_ok_iff]
  simp only [acceptedSelection_eq_ok_iff, and_assoc, exists_and_left]

end Generation

end ServiceBindings
