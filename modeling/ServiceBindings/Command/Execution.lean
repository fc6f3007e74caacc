import ServiceBindings.Command.Help
import ServiceBindings.ExitCode
import ServiceBindings.Inspection
import ServiceBindings.Listing.Basic
import ServiceBindings.Plugin
import ServiceBindings.Scan

/-!
# Executing commands

What the program does for a command line: what it prints, how it ends, and the operations on
the disk on the way.
-/

namespace ServiceBindings.Command

open Disk (Program)

/-- What a run depends on besides its command line and the disk. -/
structure Surroundings where
  /-- The home directory, if there is one. -/
  home? : Option String
  /-- Whether summaries may be printed in colors. -/
  colors : Bool
  /-- The octets of standard input. -/
  input : List UInt8
deriving DecidableEq, Repr

/-- How a run ends. -/
structure Outcome where
  exitCode : ExitCode
  /-- The octets of standard output. -/
  output : List UInt8
  /-- The text of the failure, if there was one. -/
  errorText : String
deriving DecidableEq, Repr

namespace Outcome

/-- A run that prints a text and succeeds. -/
def ofText (text : String) : Outcome := ⟨.success, Text.Utf8.encode text, ""⟩

/-- A run that fails. -/
def ofFailure (failure : Failure) : Outcome := ⟨.failure, [], failure.report⟩

/-- A run whose command line or input is unusable. -/
def invalidInput : Outcome := ⟨.invalidInput, [], ""⟩

end Outcome

/-- The outcome of a command that prints a summary or fails. -/
def summarize (surroundings : Surroundings) (format : OutputFormat) :
    Except Failure Json.Value → Outcome
  | .ok value => .ofText (Listing.format surroundings.colors format value ++ "\n")
  | .error failure => .ofFailure failure

/-- The response to a request, as octets. -/
def respond (octets : List UInt8) : Except Failure (List UInt8) :=
  match Plugin.Request.decode octets with
  | .ok request => .ok request.respond.encode
  | .error error =>
    .error (.inContext
      ("could not read CodeGeneratorRequest; run this binary as a protoc plugin or pass " ++
        "a subcommand")
      (.decoding error))

/-- The report on a set of descriptors from a source. -/
def inspectOctets (source : String) (octets : List UInt8) :
    Except GenerationError (List ServiceReport) := do
  let descriptors ← Descriptor.decodeSource source octets
  let files ← Descriptor.toSchemas descriptors
  pure (inspect files)

/-- Carries out a job. -/
def Job.execute (surroundings : Surroundings) (format : OutputFormat) : Job → Program Outcome
  | respond => .done <|
    match Command.respond surroundings.input with
    | .ok response => ⟨.success, response, ""⟩
    | .error failure => .ofFailure failure
  | scan source output options =>
    .probe source fun found =>
      if found then
        (Scan.generate surroundings.home? source output (Options.ofArguments options)).andThen
          fun summary =>
            .done (summarize surroundings format (summary.map Scan.Summary.toJson))
      else .done .invalidInput
  | inspect path =>
    .read path fun content => .done <|
      match content with
      | .error .notFound => .invalidInput
      | .error fault => .ofFailure (.read path fault)
      | .ok octets =>
        summarize surroundings format
          (((inspectOctets path octets).map reportsToJson).mapError Failure.ofGeneration)
  | completions shell => .done (.ofText (completionScript shell))

/-- Carries out a command line. -/
def execute (surroundings : Surroundings) (arguments : List String) : Program Outcome :=
  match Invocation.ofArguments arguments with
  | .error .usageError => .done .invalidInput
  | .error .helpWanted => .done (.ofText helpText)
  | .error .versionWanted => .done (.ofText versionText)
  | .ok invocation =>
    match (invocation.formatWord?.map OutputFormat.parse).getD (.ok .default) with
    | .error error => .done (.ofFailure (.ofGeneration error))
    | .ok format => invocation.job.execute surroundings format

end ServiceBindings.Command
