import Mathlib
import ServiceBindings.Proofs.Artifact.Collector
import ServiceBindings.Proofs.Artifact.Repetition
import ServiceBindings.Proofs.Descriptor
import ServiceBindings.Proofs.Options
import ServiceBindings.Proofs.Plugin
import ServiceBindings.Scan

/-!
# Scans and requests

What a scan writes to disk is what a request for the same descriptors is answered with: a scan
selects all schema files that it found, and its arguments are the parameter of the request.
-/

namespace ServiceBindings.Scan

open Disk (isAbsolute joinPath)
open Json (Value)

variable {home? : Option String} {source output : String} {options : Options}
  {disk after : Disk} {collection : Collection} {summary : Summary}

/-- The request for the code of all descriptors of a collection, with the given arguments. -/
def Collection.request (collection : Collection) (arguments : List String) :
    Plugin.Request where
  selection := collection.descriptors.map (·.nameOrEmpty)
  parameter? := some (Options.joined arguments)
  descriptors := collection.descriptors

/-- A scan generates what a request generates. -/
theorem generateCode_ofArguments (collection : Collection) (arguments : List String) :
    generateCode collection (Options.ofArguments arguments) =
      (collection.request arguments).generate.map (·, collection.descriptors.length) := by
  rw [generateCode, Plugin.Request.generate]
  cases ingested : Descriptor.toSchemas collection.descriptors with
  | error error =>
      rw [Collection.request, ingested]
      rfl
  | ok files =>
      have names := Descriptor.names_of_toSchemas ingested
      have lengths := congrArg List.length names
      rw [List.length_map, List.length_map] at lengths
      simp only [Collection.request, ingested, Option.getD_some, Options.parse_joined, ← names,
        ← lengths]
      cases generated : Generation.runOptions (Options.ofArguments arguments) files
          (files.map (·.name)) with
      | error error => simp [bind, Except.bind, Except.map, generated]
      | ok code => simp [bind, Except.bind, Except.map, generated, pure, Except.pure]

section Collected

variable (collected : ((collect source).run disk).1 = .ok collection)

include collected

/-- What a scan does after it has collected descriptors. -/
theorem run_generate (home? : Option String) (output : String) (options : Options) :
    (generate home? source output options).run disk =
      match generateCode collection options with
      | .error error => (.error (.ofGeneration error), disk)
      | .ok (code, schemaFileCount) =>
        (((writeCode home? output code).run disk).1.map fun artifacts =>
            { source, output, setCount := collection.setCount, schemaFileCount, artifacts },
          ((writeCode home? output code).run disk).2) := by
  have isCollection : (collect source).run disk = (.ok collection, disk) := Prod.ext collected rfl
  rw [generate, Disk.Program.run_andThen, isCollection]
  simp only
  rcases generateCode collection options with error | ⟨code, schemaFileCount⟩
  · rfl
  · exact Disk.Program.run_andThen _ _ _

/-- A scan succeeds if the code for what it collected can be written. -/
theorem run_generate_eq_ok_iff {code : GeneratedCode} {schemaFileCount : Nat}
    (generated : generateCode collection options = .ok (code, schemaFileCount)) :
    (generate home? source output options).run disk = (.ok summary, after) ↔
      ∃ tree, (writeCode home? output code).run disk = (.ok tree, after) ∧
        summary = ⟨source, output, collection.setCount, schemaFileCount, tree⟩ := by
  rw [run_generate collected, generated]
  simp only
  rcases (writeCode home? output code).run disk with ⟨result, left⟩
  cases result with
  | error failure => simp [Except.map]
  | ok tree => simp [Except.map, and_comm, eq_comm]

end Collected

/-- Code is written by creating the output directory and exporting the tree of the code to it. -/
theorem exists_export_of_writeCode {code : GeneratedCode} {tree : Artifact.Tree}
    (written : (writeCode home? output code).run disk = (.ok tree, after)) :
    ∃ created, disk.createDirectories output = (created, none) ∧
      (Artifact.Collector.empty.addCode code).build = .ok tree ∧
        (tree.exportTo home? output).run created = (.ok (), after) := by
  rw [writeCode, Disk.Program.run, Disk.Action.perform] at written
  rcases created : disk.createDirectories output with ⟨based, fault?⟩
  rw [created] at written
  cases fault? with
  | some fault => cases written
  | none =>
      simp only [Artifact.Collector.exportTo] at written
      cases built : (Artifact.Collector.empty.addCode code).build with
      | error error =>
          rw [built] at written
          cases written
      | ok collected =>
          rw [built] at written
          simp only [Disk.Program.run_andThen] at written
          rcases exported : (collected.exportTo home? output).run based with ⟨result, left⟩
          rw [exported] at written
          cases result with
          | error error => cases written
          | ok =>
              cases written
              exact ⟨based, rfl, rfl, exported⟩

/-- The summary of a scan, as it is printed, for the code that was generated. -/
def summaryOf (collection : Collection) (source output : String) (code : GeneratedCode) : Value :=
  .object
    [("source_dir", .text source),
      ("output_dir", .text output),
      ("descriptor_sets", .ofNat collection.setCount),
      ("schema_files", .ofNat collection.descriptors.length),
      ("generated_files", .ofNat code.length),
      ("total_bytes", .ofNat (code.map (·.content.utf8ByteSize)).sum),
      ("files", .array (code.paths.mergeSort.map .text))]

/-- A scan and a request for the descriptors that it collects, with its arguments, agree.  If the
answer to the request is an error, the scan fails with its text and changes nothing.  If the
answer is code and the scan succeeds, its summary is about that code, and each file of it can be
read below the output directory, unless that stands for the home directory.  The disk holds regular
files and directories only: on one with links or special files, what a file is given may not be
what is read back from it. -/
theorem generate_agrees_with_respond (home? : Option String) {source : String} (output : String)
    (arguments : List String) {disk : Disk} {collection : Collection}
    (collected : ((collect source).run disk).1 = .ok collection) :
    (∀ text, (collection.request arguments).respond.error? = some text →
      ∃ failure, (generate home? source output (Options.ofArguments arguments)).run disk =
        (.error failure, disk) ∧ failure.texts = [text]) ∧
    ((collection.request arguments).respond.error? = none → ∀ summary after,
      (generate home? source output (Options.ofArguments arguments)).run disk =
        (.ok summary, after) →
      summary.toJson =
        summaryOf collection source output (collection.request arguments).respond.files ∧
      (output.toList.head? ≠ some '~' → disk.HasStart (isAbsolute output) →
        ∀ file ∈ (collection.request arguments).respond.files,
          after.read (joinPath output file.path) = .ok (Text.Utf8.encode file.content))) := by
  have scanned := generateCode_ofArguments collection arguments
  rw [Plugin.Request.respond]
  cases generated : (collection.request arguments).generate with
  | error error =>
      rw [generated] at scanned
      constructor
      · intro text isText
        cases isText
        refine ⟨.ofGeneration error, ?_, rfl⟩
        rw [run_generate collected, scanned]
        rfl
      · intro answered
        cases answered
  | ok code =>
      rw [generated] at scanned
      constructor
      · intro text isText
        cases isText
      · intro _ summary after succeeds
        rcases (run_generate_eq_ok_iff collected scanned).mp succeeds with ⟨tree, written, rfl⟩
        rcases exists_export_of_writeCode written with ⟨created, isCreated, built, exported⟩
        constructor
        · rw [Summary.toJson, summaryOf, Artifact.Collector.size_of_build built,
            Artifact.Collector.octetCount_of_build built,
            Artifact.Collector.paths_of_build built]
        · intro noTilde hasStart file member
          have createdStart := (Disk.grows_of_createDirectories isCreated).hasStart hasStart
          have performed := (Artifact.run_exportTo_eq_ok_iff home? noTilde).mp exported
          have isEntry := Artifact.Collector.mem_entries_of_build built member
          exact Artifact.read_of_performs createdStart performed isEntry

/-- A disk with a working directory `/work` that has a directory `in`, in which there is one set of
descriptors: of a schema file `a.proto` with a service `S` that has no methods. -/
def diskWithService : Disk :=
  ⟨["work"], none, [("work", .directory [("in", .directory [("a.pb", .file
    [10, 14, 10, 7, 97, 46, 112, 114, 111, 116, 111, 50, 3, 10, 1, 83])])])]⟩

/-- What is collected on that disk. -/
def collectionOfService : Collection :=
  ⟨[⟨some "a.proto", none, none, [], [], [⟨some "S", []⟩]⟩], 1⟩

/-- Arguments that leave registrations only. -/
def registrationsOnly : List String :=
  ["--enableJavaInterfaces=false,enableJavaDefaultImpl=false", "--enablePython=false"]

/-- The registrations of that service. -/
def registrationsOfService : GeneratedCode :=
  [⟨"META-INF/services/A.SService", "A.SDefaultBlockingImpl\n"⟩,
    ⟨"META-INF/services/A.AsyncSService", "A.SDefaultAsyncImpl\n"⟩]

theorem respond_service : (collectionOfService.request registrationsOnly).respond =
    ⟨none, registrationsOfService⟩ := by
  have ingested : Descriptor.toSchemas collectionOfService.descriptors =
      .ok [Plugin.Request.fileOfServices ["S"]] := rfl
  have isSelected : ["a.proto"].mapM (Generation.select [Plugin.Request.fileOfServices ["S"]]) =
      .ok [Plugin.Request.fileOfServices ["S"]] := rfl
  rw [Plugin.Request.respond_eq ingested rfl isSelected]
  decide +kernel

theorem collect_service : ((collect "in").run diskWithService).1 = .ok collectionOfService := by
  cbv

theorem generateCode_service :
    generateCode collectionOfService (Options.ofArguments registrationsOnly) =
      .ok (registrationsOfService, 1) := by
  have answered := Plugin.Request.generate_of_answered (congrArg (·.error?) respond_service)
  rw [respond_service] at answered
  rw [generateCode_ofArguments, answered]
  rfl

/-- If the registrations can be written, the scan of that disk succeeds. -/
theorem exists_scan_of_isOk
    (succeeds : ((writeCode home? output registrationsOfService).run diskWithService).1.isOk =
      true) :
    ∃ tree, (Artifact.Collector.empty.addCode registrationsOfService).build = .ok tree ∧
      (generate home? "in" output (Options.ofArguments registrationsOnly)).run diskWithService =
        (.ok ⟨"in", output, 1, 1, tree⟩,
          ((writeCode home? output registrationsOfService).run diskWithService).2) := by
  rcases written : (writeCode home? output registrationsOfService).run diskWithService with
    ⟨result, after⟩
  rw [written] at succeeds
  cases result with
  | error failure => cases succeeds
  | ok tree =>
      rcases exists_export_of_writeCode written with ⟨_, _, built, _⟩
      exact ⟨tree, built, (run_generate_eq_ok_iff collect_service generateCode_service).mpr
        ⟨tree, written, rfl⟩⟩

theorem exists_scan_of_service : ∃ summary after,
    (generate none "in" "out" (Options.ofArguments registrationsOnly)).run diskWithService =
      (.ok summary, after) := by
  have succeeds :
      ((writeCode none "out" registrationsOfService).run diskWithService).1.isOk = true := by
    decide +kernel
  rcases exists_scan_of_isOk succeeds with ⟨tree, _, scanned⟩
  exact ⟨_, _, scanned⟩

theorem generate_agrees_with_respond_service :
    ((collect "in").run diskWithService).1 = .ok collectionOfService ∧
      (collectionOfService.request registrationsOnly).respond = ⟨none, registrationsOfService⟩ ∧
      ∃ summary after,
        (generate none "in" "out" (Options.ofArguments registrationsOnly)).run diskWithService =
          (.ok summary, after) ∧
        summary.toJson = summaryOf collectionOfService "in" "out" registrationsOfService ∧
        ∀ file ∈ registrationsOfService,
          after.read (joinPath "out" file.path) = .ok (Text.Utf8.encode file.content) := by
  have agrees := (generate_agrees_with_respond none "out" registrationsOnly collect_service).2
  rw [respond_service] at agrees
  rcases exists_scan_of_service with ⟨summary, after, succeeds⟩
  have ⟨isSummary, isReadable⟩ := agrees rfl summary after succeeds
  exact ⟨collect_service, respond_service, summary, after, succeeds, isSummary,
    isReadable (by decide) rfl⟩

end ServiceBindings.Scan
