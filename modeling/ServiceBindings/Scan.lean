import ServiceBindings.Artifact.Export
import ServiceBindings.Command.Failure
import ServiceBindings.Descriptor.Ingestion
import ServiceBindings.Descriptor.Wire
import ServiceBindings.Generation

/-!
# Scanning directories

Every file below a source directory is read as a set of descriptors, and code is generated
for all schema files that were found.  A schema file that is found again is passed over.
-/

namespace ServiceBindings.Scan

open Command (Failure)
open Disk (Program)
open Json (Value)

/-- The descriptors that were found. -/
structure Collection where
  /-- Descriptors with distinct names, in the order in which they were found. -/
  descriptors : List Descriptor.File
  /-- The number of sets that were read. -/
  setCount : Nat
deriving BEq, Repr

namespace Collection

/-- No descriptors. -/
def empty : Collection := ⟨[], 0⟩

/-- Adds a descriptor unless there is one of its name. -/
def add (descriptors : List Descriptor.File) (descriptor : Descriptor.File) :
    List Descriptor.File :=
  if descriptors.any (·.nameOrEmpty == descriptor.nameOrEmpty) then descriptors
  else descriptors ++ [descriptor]

/-- Adds the descriptors of a set. -/
def addSet (collection : Collection) (set : List Descriptor.File) : Collection where
  descriptors := set.foldl add collection.descriptors
  setCount := collection.setCount + 1

/-- Adds the descriptors in a file. -/
def addFile (collection : Collection) (file : Disk.FoundFile) : Except Failure Collection :=
  match file.content with
  | .error fault => .error (.read file.path fault)
  | .ok octets =>
    ((Descriptor.decodeSource file.path octets).map collection.addSet).mapError
      Failure.ofGeneration

/-- Adds the descriptors that a walk from a source comes upon, unless something cannot be
entered. -/
def addVisit (source : String) (collection : Collection) :
    Disk.Visit → Except Failure Collection
  | .error failure => .error (.walk source failure)
  | .ok file => collection.addFile file

/-- The descriptors that a walk from a source comes upon, or the first failure. -/
def ofVisits (source : String) (visits : List Disk.Visit) : Except Failure Collection :=
  visits.foldlM (addVisit source) empty

end Collection

/-- Collects the descriptors at or below a path. -/
def collect (source : String) : Program (Except Failure Collection) :=
  .walk source fun visits => .done (Collection.ofVisits source visits)

/-- The code for all schema files of a collection, with the number of them. -/
def generateCode (collection : Collection) (options : Options) :
    Except GenerationError (GeneratedCode × Nat) := do
  let files ← Descriptor.toSchemas collection.descriptors
  let code ← Generation.runOptions options files (files.map (·.name))
  pure (code, files.length)

/-- What a scan did. -/
structure Summary where
  source : String
  output : String
  setCount : Nat
  schemaFileCount : Nat
  artifacts : Artifact.Tree

/-- A summary as it is printed. -/
def Summary.toJson (summary : Summary) : Value :=
  .object
    [("source_dir", .text summary.source),
      ("output_dir", .text summary.output),
      ("descriptor_sets", .ofNat summary.setCount),
      ("schema_files", .ofNat summary.schemaFileCount),
      ("generated_files", .ofNat summary.artifacts.size),
      ("total_bytes", .ofNat summary.artifacts.octetCount),
      ("files", .array (summary.artifacts.paths.map .text))]

/-- Creates an output directory and writes code to it. -/
def writeCode (home? : Option String) (output : String) (code : GeneratedCode) :
    Program (Except Failure Artifact.Tree) :=
  .change (.createDirectories output) fun fault? =>
    match fault? with
    | some fault => .done (.error (.inContext ("failed to create " ++ output) (.disk fault)))
    | none =>
      ((Artifact.Collector.empty.addCode code).exportTo home? (.ok output)).andThen fun tree =>
        .done (tree.mapError fun error =>
          .inContext ("failed to write artifacts to " ++ output) (.artifact error))

/-- Generates code for everything at or below a source into an output directory. -/
def generate (home? : Option String) (source output : String) (options : Options) :
    Program (Except Failure Summary) :=
  (collect source).andThen fun collected =>
    match collected with
    | .error failure => .done (.error failure)
    | .ok collection =>
      match generateCode collection options with
      | .error error => .done (.error (.ofGeneration error))
      | .ok (code, schemaFileCount) =>
        (writeCode home? output code).andThen fun written =>
          .done (written.map fun artifacts =>
            { source, output, setCount := collection.setCount, schemaFileCount, artifacts })

end ServiceBindings.Scan
