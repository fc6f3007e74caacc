import ServiceBindings.Proofs.Disk.Misreading
import ServiceBindings.Proofs.Scan

/-!
# What failed scans leave

A scan collects and generates before it changes anything, then creates its output directory, and
writes files only when all artifacts were collected without an error.  So a scan that fails
earlier has changed nothing, and one that fails on the path of an artifact has made directories
only.  This holds whatever the disk reports or refuses.
-/

namespace ServiceBindings.Scan

open Command (Failure)
open Disk (Deepens isAbsolute joinPath steps)

/-! ## Kinds of failures -/

/-- Whether a failure is one of walking from a source, of reading a file, or of decoding, converting
or generating. -/
inductive IsBeforeWriting (source : String) : Failure → Prop where
  | walking (failure : Disk.Failure) : IsBeforeWriting source (.walk source failure)
  | reading (path : String) (fault : Disk.Fault) : IsBeforeWriting source (.read path fault)
  | generating (error : GenerationError) : IsBeforeWriting source (.ofGeneration error)

/-- Whether the path of an artifact is malformed or taken. -/
def IsPathError (error : ArtifactError) : Prop :=
  error.isInvalidPath = true ∨ error.isDuplicate = true

/-- Whether a failure is about the path of an artifact. -/
def IsAboutPath (failure : Failure) : Prop :=
  ∃ error, failure.cause = .artifact error ∧ IsPathError error

theorem isBeforeWriting_of_addVisit {source : String} {collection : Collection}
    {visit : Disk.Visit} {failure : Failure}
    (failed : collection.addVisit source visit = .error failure) :
    IsBeforeWriting source failure := by
  cases visit with
  | error failure =>
      cases failed
      exact .walking failure
  | ok file =>
      rw [Collection.addVisit, Collection.addFile] at failed
      split at failed
      · cases failed
        exact .reading _ _
      · rename_i octets _
        cases decoded : Descriptor.decodeSource file.path octets with
        | error error =>
            rw [decoded] at failed
            cases failed
            exact .generating error
        | ok set =>
            rw [decoded] at failed
            cases failed

theorem isBeforeWriting_of_foldlM {source : String} {visits : List Disk.Visit}
    {collection : Collection} {failure : Failure}
    (failed : visits.foldlM (Collection.addVisit source) collection = .error failure) :
    IsBeforeWriting source failure := by
  induction visits generalizing collection with
  | nil => cases failed
  | cons visit rest ih =>
      rw [List.foldlM_cons] at failed
      cases added : collection.addVisit source visit with
      | error visitFailure =>
          rw [added] at failed
          cases failed
          exact isBeforeWriting_of_addVisit added
      | ok larger =>
          rw [added] at failed
          exact ih failed

/-- Artifacts cannot be collected only because of their paths. -/
theorem isPathError_of_build {code : GeneratedCode} {error : ArtifactError}
    (failed : (Artifact.Collector.empty.addCode code).build = .error error) :
    IsPathError error := by
  have member := Artifact.Collector.mem_errors_of_build failed
  generalize Artifact.Collector.empty = collector at member
  clear failed
  induction code generalizing collector with
  | nil => cases member
  | cons file rest ih =>
      rw [Artifact.Collector.errors, List.mem_append] at member
      rcases member with isFirst | inRest
      · rcases collector.tree.add_cases file.path file.content with
          ⟨_, isRefused, isInvalid⟩ | ⟨isRefused, _⟩ | ⟨_, isAdded, _⟩
        · rw [isRefused, List.mem_singleton] at isFirst
          exact .inl (isFirst ▸ isInvalid)
        · rw [isRefused, List.mem_singleton] at isFirst
          exact .inr (isFirst ▸ rfl)
        · rw [isAdded] at isFirst
          cases isFirst
      · exact ih _ inRest

/-! ## Failed scans -/

variable {home? : Option String} {source output : String} {options : Options}
  {disk after : Disk} {failure : Failure}

/-- How a scan may fail, and what it has done to the disk by then. -/
inductive Fails (source output : String) (disk after : Disk) : Failure → Prop where
  | beforeWriting {failure : Failure} (isBefore : IsBeforeWriting source failure)
      (same : after = disk) : Fails source output disk after failure
  /-- The output directory cannot be created. -/
  | creating (fault : Disk.Fault) :
      Fails source output disk after
        (.inContext ("failed to create " ++ output) (.disk fault))
  /-- The output directory was created, and the path of an artifact is malformed or taken. -/
  | collecting {error : ArtifactError} (isPathError : IsPathError error)
      (created : (Disk.Action.createDirectories output).MayEnd disk after none) :
      Fails source output disk after
        (.inContext ("failed to write artifacts to " ++ output) (.artifact error))
  /-- The artifacts cannot be written. -/
  | writing (path : String) (fault : Disk.Fault) :
      Fails source output disk after
        (.inContext ("failed to write artifacts to " ++ output) (.artifact (.disk path fault)))

/-- An export fails on the disk only. -/
theorem exists_of_exportTo_error {tree : Artifact.Tree} {base : String} {error : ArtifactError}
    (ends : (tree.exportTo home? base).MayEndMisled disk (.error error) after) :
    ∃ path fault, error = .disk path fault := by
  rw [Artifact.Tree.exportTo] at ends
  split at ends
  · rename_i error isExpanded
    cases ends
    rw [Artifact.expandHome] at isExpanded
    split at isExpanded <;> cases home? <;> cases isExpanded <;> exact ⟨_, _, rfl⟩
  · rcases ends.of_andThen with ⟨failure?, _, _, isDone⟩
    cases failure? with
    | none => cases isDone
    | some failure =>
        cases isDone
        exact ⟨_, _, rfl⟩

theorem fails_of_writeCode {code : GeneratedCode}
    (ends : (writeCode home? output code).MayEndMisled disk (.error failure) after) :
    Fails source output disk after failure := by
  cases ends with
  | @change _ middle _ _ _ fault? _ created rest =>
      cases fault? with
      | some fault =>
          cases rest
          exact .creating fault
      | none =>
          rcases rest.of_andThen with ⟨result, written, exported, isDone⟩
          cases result with
          | ok tree => cases isDone
          | error error =>
              cases isDone
              cases built : (Artifact.Collector.empty.addCode code).build with
              | error pathError =>
                  simp only [Artifact.Collector.exportTo, built] at exported
                  cases exported
                  exact .collecting (isPathError_of_build built) created
              | ok tree =>
                  simp only [Artifact.Collector.exportTo, built] at exported
                  rcases exported.of_andThen with ⟨result, _, inExport, isMapped⟩
                  cases result with
                  | ok done => cases isMapped
                  | error diskError =>
                      cases isMapped
                      rcases exists_of_exportTo_error inExport with ⟨path, fault, rfl⟩
                      exact .writing path fault

theorem fails_of_generate
    (ends : (generate home? source output options).MayEndMisled disk (.error failure) after) :
    Fails source output disk after failure := by
  rcases ends.of_andThen with ⟨collected, middle, inCollect, rest⟩
  cases inCollect with
  | walk visits isDone =>
      cases isDone
      cases collected : Collection.ofVisits source visits with
      | error visitFailure =>
          rw [collected] at rest
          cases rest
          exact .beforeWriting (isBeforeWriting_of_foldlM collected) rfl
      | ok collection =>
          simp only [collected] at rest
          split at rest
          · cases rest
            exact .beforeWriting (.generating _) rfl
          · rcases rest.of_andThen with ⟨result, _, written, isDone⟩
            cases result with
            | ok tree => cases isDone
            | error writeFailure =>
                cases isDone
                exact fails_of_writeCode written

theorem not_isBeforeWriting_of_creating (fault : Disk.Fault) :
    ¬IsBeforeWriting source (.inContext ("failed to create " ++ output) (.disk fault)) := by
  intro isBefore
  generalize isCreating : Failure.inContext ("failed to create " ++ output) (.disk fault) =
    failure at isBefore
  cases isBefore with
  | walking => cases isCreating
  | generating => cases isCreating
  | reading path other =>
      have contexts := Option.some.inj (congrArg Failure.context? isCreating)
      -- The contexts differ in the letter after `failed to `.
      have letters := congrArg (fun text => text.toList[10]?) contexts
      simp at letters

/-- A scan that fails while it walks, reads, decodes, converts or generates has changed nothing.
One that fails on the path of an artifact has made at most the output directory and what was
missing above it, and the files are the same. -/
theorem failed_scan_writes_no_file
    (ends : (generate home? source output options).MayEndMisled disk (.error failure) after) :
    (IsBeforeWriting source failure → after = disk) ∧
      (IsAboutPath failure → disk.HasStart (isAbsolute output) →
        Deepens (isAbsolute output) (steps output) disk after ∧
          ∀ location octets, after.find? location = some (.file octets) ↔
            disk.find? location = some (.file octets)) := by
  cases fails_of_generate ends with
  | beforeWriting isBefore same =>
      refine ⟨fun _ => same, ?_⟩
      intro _ _
      subst same
      exact ⟨.refl _ _ _, fun _ _ => Iff.rfl⟩
  | creating fault =>
      constructor
      · intro isBefore
        exact absurd isBefore (not_isBeforeWriting_of_creating fault)
      · intro isAbout
        rcases isAbout with ⟨error, isCause, _⟩
        cases isCause
  | collecting isPathError created =>
      constructor
      · intro isBefore
        cases isBefore
      · intro _ hasStart
        have deepens := created.deepens hasStart
        exact ⟨deepens, fun _ _ => deepens.find?_eq_file_iff⟩
  | writing path fault =>
      constructor
      · intro isBefore
        cases isBefore
      · intro isAbout
        rcases isAbout with ⟨error, isCause, isPathError⟩
        cases isCause
        rcases isPathError with isInvalid | isDuplicate
        · cases isInvalid
        · cases isDuplicate

/-- A disk with a directory `in`, in which there is one set of descriptors: of a schema file
`a.proto` with services `S` and `AsyncS` that have no methods. -/
def diskWithClash : Disk :=
  ⟨[], none, [("in", .directory [("a.pb", .file
    [10, 24, 10, 7, 97, 46, 112, 114, 111, 116, 111, 50, 3, 10, 1, 83, 50, 8, 10, 6, 65, 115, 121,
      110, 99, 83])])]⟩

/-- That disk after the creation of a directory `out`. -/
def diskWithClashAndOutput : Disk := diskWithClash.put ["out"] .directory

/-- The failure of a scan of that disk: the asynchronous contract of `S` and the blocking contract
of `AsyncS` are registered at the same path. -/
def failureOfClash : Failure :=
  .inContext "failed to write artifacts to out"
    (.artifact (.duplicate "META-INF/services/A.AsyncSService"))

theorem run_generate_clash :
    (generate none "in" "out" (Options.ofArguments registrationsOnly)).run diskWithClash =
      (.error failureOfClash, diskWithClashAndOutput) := by
  have collected : ((collect "in").run diskWithClash).1 =
      .ok ⟨(Plugin.Request.ofServices ["S", "AsyncS"]).descriptors, 1⟩ := by
    cbv
  have ingested : Descriptor.toSchemas (Plugin.Request.ofServices ["S", "AsyncS"]).descriptors =
      .ok [Plugin.Request.fileOfServices ["S", "AsyncS"]] := rfl
  have generators : Generator.ofOptions (Options.ofArguments registrationsOnly) =
      [⟨.registration, none⟩] := by
    decide +kernel
  have generated : Generation.runOptions (Options.ofArguments registrationsOnly)
      [Plugin.Request.fileOfServices ["S", "AsyncS"]] ["a.proto"] =
        .ok (Generation.filesOf [⟨.registration, none⟩]
          (.ofFiles [Plugin.Request.fileOfServices ["S", "AsyncS"]])
          (Plugin.Request.fileOfServices ["S", "AsyncS"])) := by
    rw [Generation.runOptions, generators]
    exact Generation.run_eq_ok_iff.mpr ⟨rfl, [_], rfl, (List.flatMap_singleton _ _).symm⟩
  have isCode : generateCode ⟨(Plugin.Request.ofServices ["S", "AsyncS"]).descriptors, 1⟩
      (Options.ofArguments registrationsOnly) = .ok (_, 1) :=
    bind_eq_ok_iff.mpr ⟨_, ingested, bind_eq_ok_iff.mpr ⟨_, generated, rfl⟩⟩
  rw [run_generate collected, isCode]
  rfl

theorem failed_scan_writes_no_file_clash :
    (generate none "in" "out" (Options.ofArguments registrationsOnly)).run diskWithClash =
        (.error failureOfClash, diskWithClashAndOutput) ∧
      Deepens false ["out"] diskWithClash diskWithClashAndOutput ∧
        ∀ location octets, diskWithClashAndOutput.find? location = some (.file octets) ↔
          diskWithClash.find? location = some (.file octets) := by
  have ends := (Disk.Program.mayEnd_run diskWithClash
    (generate none "in" "out" (Options.ofArguments registrationsOnly))).misled
  rw [run_generate_clash] at ends
  have hasStart : diskWithClash.HasStart (isAbsolute "out") := rfl
  have isAbout : IsAboutPath failureOfClash := ⟨_, rfl, .inr rfl⟩
  exact ⟨run_generate_clash, (failed_scan_writes_no_file ends).2 isAbout hasStart⟩

end ServiceBindings.Scan
