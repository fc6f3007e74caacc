import ServiceBindings.Artifact.Error
import ServiceBindings.Disk.Tree
import ServiceBindings.Error
import ServiceBindings.Text.Segments
import ServiceBindings.Wire.Error

/-!
# Failures of commands

Why a command fails: a cause, and around it perhaps a sentence on what was being done.  A
failure is told from the outermost text to the innermost one.
-/

namespace ServiceBindings.Command

/-- What made a command fail. -/
inductive Cause where
  | generation (error : GenerationError)
  | artifact (error : ArtifactError)
  | decoding (error : Wire.DecodeError)
  | disk (fault : Disk.Fault)
  /-- A path could not be entered. -/
  | walk (failure : Disk.Failure)
deriving DecidableEq, Repr

/-- The texts of a cause, the outermost first.  What is wrong with the disk is told once more
by itself. -/
def Cause.texts : Cause → List String
  | generation error => [error.message]
  | artifact (.disk path fault) => [(ArtifactError.disk path fault).message, fault.message]
  | artifact error => [error.message]
  | decoding error => [error.message]
  | disk fault => [fault.message]
  | walk failure =>
    ["IO error for operation on " ++ failure.path ++ ": " ++ failure.fault.message,
      failure.fault.message]

/-- The failure of a command. -/
structure Failure where
  context? : Option String
  cause : Cause
deriving DecidableEq, Repr

namespace Failure

/-- A failure without further context. -/
def ofGeneration (error : GenerationError) : Failure := ⟨none, .generation error⟩

/-- A failure while something was being done. -/
def inContext (context : String) (cause : Cause) : Failure := ⟨some context, cause⟩

/-- The failure of a walk from a source. -/
def walk (source : String) (failure : Disk.Failure) : Failure :=
  .inContext ("failed to walk " ++ source) (.walk failure)

/-- The failure of reading a file. -/
def read (path : String) (fault : Disk.Fault) : Failure :=
  .inContext ("failed to read " ++ path) (.disk fault)

/-- All texts of a failure, the outermost first. -/
def texts (failure : Failure) : List String :=
  failure.context?.toList ++ failure.cause.texts

/-- The outermost text. -/
def message (failure : Failure) : String := failure.texts.headD ""

/-- The texts below the outermost one. -/
def causes (failure : Failure) : List String := failure.texts.tail

/-- A cause, of which every line but the first one starts with the given number of blanks. -/
def indented (blanks : Nat) (text : String) : String :=
  String.intercalate ("\n" ++ String.ofList (List.replicate blanks ' '))
    (Text.segments '\n' text)

/-- The lines of the given causes.  Several causes are numbered. -/
def causeLines : List String → List String
  | [] => []
  | [cause] => ["    " ++ indented 4 cause]
  | causes => causes.zipIdx.map fun (cause, index) =>
      let number := toString index
      String.ofList (List.replicate (5 - number.length) ' ') ++ number ++ ": " ++
        indented 7 cause

/-- A failure as it is reported to the user. -/
def report (failure : Failure) : String :=
  let causes := failure.causes
  "Error: " ++ failure.message ++ "\n" ++
    (if causes.isEmpty then ""
    else "\nCaused by:\n" ++ String.join ((causeLines causes).map (· ++ "\n")))

end Failure

end ServiceBindings.Command
