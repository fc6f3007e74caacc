import ServiceBindings.Error
import ServiceBindings.Schema.Basic

/-!
# Validation of schema files

A schema file is well-formed when everything in it has a name, no two services share one,
and every method names both of its types.  `File.defect?` finds the first defect of a file
in a fixed order: the file name, the messages, and then service by service the service's
name and its methods.
-/

namespace ServiceBindings.Schema

/-- What can be wrong with a schema file. -/
inductive Defect where
  | unnamedFile
  /-- A message without a name at or below a top-level message. -/
  | unnamedMessage (topLevel : String)
  | unnamedService
  | duplicateService (service : String)
  | unnamedMethod (service : String)
  /-- A method without an input or output type. -/
  | missingType (service method : String)
deriving DecidableEq, Repr

/-- The text of a defect. -/
def Defect.reason : Defect → String
  | unnamedFile => "file without a name"
  | unnamedMessage topLevel => "message declaration with an empty name near '" ++ topLevel ++ "'"
  | unnamedService => "service without a name"
  | duplicateService service => "duplicate service '" ++ service ++ "'"
  | unnamedMethod service => "method without a name in service '" ++ service ++ "'"
  | missingType service method =>
    "method '" ++ service ++ "." ++ method ++ "' is missing its input or output type"

mutual

/-- Whether a message and all messages nested in it have names. -/
def Message.isNamed : Message → Bool
  | ⟨name, nested⟩ => !name.isEmpty && Message.areNamed nested

/-- Whether messages and all messages nested in them have names. -/
def Message.areNamed : List Message → Bool
  | [] => true
  | message :: rest => message.isNamed && Message.areNamed rest

end

/-- The defect of a method of a service. -/
def Method.defect? (service : String) (method : Method) : Option Defect :=
  if method.name.isEmpty then some (.unnamedMethod service)
  else if method.inputType.isEmpty || method.outputType.isEmpty then
    some (.missingType service method.name)
  else none

/-- The first defect of a service that follows services of the given names. -/
def Service.defect? (earlier : List String) (service : Service) : Option Defect :=
  if service.name.isEmpty then some .unnamedService
  else if earlier.contains service.name then some (.duplicateService service.name)
  else service.methods.findSome? (Method.defect? service.name)

/-- The first defect of services that follow services of the given names. -/
def Service.firstDefect? (earlier : List String) : List Service → Option Defect
  | [] => none
  | service :: rest =>
    (service.defect? earlier).or (Service.firstDefect? (service.name :: earlier) rest)

namespace File

/-- The first defect of a schema file. -/
def defect? (file : File) : Option Defect :=
  if file.name.isEmpty then some .unnamedFile
  else
    match file.messages.find? (!·.isNamed) with
    | some message => some (.unnamedMessage message.name)
    | none => Service.firstDefect? [] file.services

/-- Accepts a well-formed schema file, and reports the first defect of any other. -/
def validate (file : File) : Except GenerationError Unit :=
  match file.defect? with
  | none => .ok ()
  | some defect => .error (.malformedSchema file.name defect.reason)

end File

end ServiceBindings.Schema
