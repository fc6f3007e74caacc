import ServiceBindings.Command.Execution

/-!
# The program

Carries out a command line on the disk of the machine.
-/

namespace ServiceBindings.Main

open Disk (Action Fault Program Visit)

/-- The number that the system gives to an error. -/
def errorNumber? : IO.Error → Option UInt32
  | .noFileOrDirectory _ number _ => some number
  | .alreadyExists _ number _ => some number
  | .inappropriateType _ number _ => some number
  | .invalidArgument _ number _ => some number
  | .resourceBusy number _ => some number
  | .otherError number _ => some number
  | _ => none

/-- A number without its sign, which some operations add to it. -/
def unsignedNumber (number : UInt32) : UInt32 :=
  if number < 0x80000000 then number else 0 - number

/-- The fault that an error of the system is. -/
def faultOf (error : IO.Error) : Fault :=
  match (errorNumber? error).map unsignedNumber with
  | some 2 => .notFound
  | some 16 => .busy
  | some 17 => .alreadyExists
  | some 20 => .notADirectory
  | some 21 => .isADirectory
  | some 36 => .nameTooLong
  | _ => .other (toString error)

/-- Performs an operation that may fail. -/
def attempt {α : Type} (operation : IO α) : IO (Except Fault α) :=
  try
    let value ← operation
    pure (.ok value)
  catch error => pure (.error (faultOf error))

/-- The fault of an operation, if there was one. -/
def faultOfAttempt (operation : IO Unit) : IO (Option Fault) := do
  match ← attempt operation with
  | .ok _ => pure none
  | .error fault => pure (some fault)

/-- Changes the disk. -/
def perform : Action → IO (Option Fault)
  | .createDirectories path => faultOfAttempt (IO.FS.createDirAll path)
  | .write path octets => faultOfAttempt (IO.FS.writeBinFile path ⟨octets.toArray⟩)
  | .rename source destination => faultOfAttempt (IO.FS.rename source destination)

/-- The kind of what is at a path and, of a directory, the names in it in order. -/
def survey (path : String) : IO (IO.FS.FileType × List String) := do
  let place := (← IO.currentDir) / path
  let kind := (← place.metadata).type
  match kind with
  | .dir =>
    let entries ← place.readDir
    pure (kind, (entries.toList.map (·.fileName)).mergeSort fun left right => left ≤ right)
  | _ => pure (kind, [])

/-- What a walk from a path comes upon. -/
partial def visits (path : String) : IO (List Visit) := do
  match ← attempt (survey path) with
  | .error fault => pure [.error ⟨path, fault⟩]
  | .ok (.dir, names) =>
    pure (← names.mapM fun name => visits (Disk.joinPath path name)).flatten
  | .ok (.file, _) =>
    let content ← attempt (IO.FS.readBinFile path)
    pure [.ok ⟨path, content.map (·.toList)⟩]
  | .ok _ => pure []

/-- Performs a program on the disk of the machine. -/
def carryOut {α : Type} : Program α → IO α
  | .done value => pure value
  | .change action next => do carryOut (next (← perform action))
  | .probe path next => do
    let place := (← IO.currentDir) / path
    carryOut (next (← place.pathExists))
  | .read path next => do
    let content ← attempt (IO.FS.readBinFile path)
    carryOut (next (content.map (·.toList)))
  | .walk path next => do carryOut (next (← visits path))

/-- Everything that is left to read from a stream. -/
partial def readToEnd (stream : IO.FS.Stream) (before : ByteArray) : IO ByteArray := do
  let more ← stream.read 65536
  if more.isEmpty then pure before else readToEnd stream (before ++ more)

/-- Whether summaries may be printed in colors: if a variable asks for it, or on a terminal. -/
def mayColor : IO Bool := do
  match ← IO.getEnv "CLICOLOR_FORCE", ← IO.getEnv "NO_COLOR" with
  | some value, _ => pure (value != "0")
  | none, some _ => pure false
  | none, none => (← IO.getStdout).isTty

/-- The number of the user to whom a process belongs, as the status of the process tells it. -/
def userNumber? (status : String) : Option String :=
  (Text.segments '\n' status).findSome? fun line =>
    match Text.segments '\t' line with
    | "Uid:" :: real :: _ => some real
    | _ => none

/-- The home directory of a user in a list of accounts. -/
def homeOfAccount? (accounts number : String) : Option String :=
  (Text.segments '\n' accounts).findSome? fun line =>
    match Text.segments ':' line with
    | [_, _, user, _, _, home, _] => if user = number then Text.nonempty? home else none
    | _ => none

/-- The home directory: what its variable holds, or that of the account if the variable is
missing or holds the empty text. -/
def home? : IO (Option String) := do
  match (← IO.getEnv "HOME").bind Text.nonempty? with
  | some home => pure (some home)
  | none =>
    let status ← attempt (IO.FS.readFile "/proc/self/status")
    let accounts ← attempt (IO.FS.readFile "/etc/passwd")
    pure (status.toOption.bind fun status =>
      accounts.toOption.bind fun accounts =>
        (userNumber? status).bind (homeOfAccount? accounts))

/-- What the run depends on. -/
def surroundings (arguments : List String) : IO Command.Surroundings := do
  let input ← match Command.Invocation.ofArguments arguments with
    | .ok ⟨.respond, _⟩ => readToEnd (← IO.getStdin) .empty
    | _ => pure .empty
  pure { home? := ← home?, colors := ← mayColor, input := input.toList }

end ServiceBindings.Main

/-- Carries out the command line of the process. -/
def main (arguments : List String) : IO UInt32 := do
  let surroundings ← ServiceBindings.Main.surroundings arguments
  let outcome ← ServiceBindings.Main.carryOut
    (ServiceBindings.Command.execute surroundings arguments)
  let output ← IO.getStdout
  output.write ⟨outcome.output.toArray⟩
  output.flush
  IO.eprint outcome.errorText
  pure outcome.exitCode.value.toUInt32
