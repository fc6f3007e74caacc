import ServiceBindings.Descriptor.Basic
import ServiceBindings.Schema.Validation

/-!
# Schema files of descriptors

What generation needs of a descriptor: names, nesting, streaming and the options that place
Java classes.  Empty optional texts count as absent, and absent names are errors.
-/

namespace ServiceBindings.Descriptor

/-- A text that is present and not empty. -/
def present? (text? : Option String) : Option String :=
  text?.bind Text.nonempty?

/-- A name that must be present and not empty, or the reason why a file is malformed. -/
def named (file reason : String) (name? : Option String) : Except GenerationError String :=
  match present? name? with
  | some name => .ok name
  | none => .error (.malformedSchema file reason)

mutual

/-- The message of a descriptor in a file. -/
def Message.toSchema (file : String) : Message → Except GenerationError Schema.Message
  | ⟨name?, nested⟩ =>
    match named file "message without a name" name? with
    | .error error => .error error
    | .ok name => (Message.listToSchema file nested).map (⟨name, ·⟩)

/-- The messages of descriptors in a file. -/
def Message.listToSchema (file : String) :
    List Message → Except GenerationError (List Schema.Message)
  | [] => .ok []
  | message :: rest =>
    match message.toSchema file with
    | .error error => .error error
    | .ok converted => (Message.listToSchema file rest).map (converted :: ·)

end

/-- The enum name of a descriptor in a file. -/
def Enum.toSchema (file : String) (enum : Enum) : Except GenerationError String :=
  named file "enum without a name" enum.name?

/-- The method of a descriptor in a service of a file. -/
def Method.toSchema (file service : String) (method : Method) :
    Except GenerationError Schema.Method := do
  let name ← named file ("method without a name in service " ++ service) method.name?
  pure
    { name
      inputType := .ofText (method.inputType?.getD "")
      outputType := .ofText (method.outputType?.getD "")
      clientStreaming := method.clientStreaming?.getD false
      serverStreaming := method.serverStreaming?.getD false }

/-- The service of a descriptor in a file. -/
def Service.toSchema (file : String) (service : Service) :
    Except GenerationError Schema.Service := do
  let name ← named file "service without a name" service.name?
  let methods ← service.methods.mapM (Method.toSchema file name)
  pure ⟨name, methods⟩

/-- The options of a file. -/
def FileOptions.toSchema (options : FileOptions) : Schema.FileOptions where
  javaPackage := present? options.javaPackage?
  javaMultipleFiles := options.javaMultipleFiles?.getD false
  javaOuterClass := present? options.javaOuterClass?

/-- The well-formed schema file of a descriptor, or the first reason why there is none. -/
def File.toSchema (file : File) : Except GenerationError Schema.File := do
  let name ← named "<unnamed>" "file descriptor has no name" file.name?
  let messages ← Message.listToSchema name file.messages
  let enums ← file.enums.mapM (Enum.toSchema name)
  let services ← file.services.mapM (Service.toSchema name)
  let schema : Schema.File :=
    { name
      package := present? file.package?
      options := (file.options?.map FileOptions.toSchema).getD .default
      messages
      enums
      services }
  schema.validate
  pure schema

/-- The schema files of descriptors in order, or the first reason why there are none. -/
def toSchemas (files : List File) : Except GenerationError (List Schema.File) :=
  files.mapM File.toSchema

end ServiceBindings.Descriptor
