import ServiceBindings.Json.Reading
import ServiceBindings.Schema.Basic

/-!
# Schema files as JSON

The stored form of a schema file.  Messages without nested ones leave out the list of them,
and the text of a type name is kept as it is.
-/

namespace ServiceBindings.Schema

open Json (Reading Record RecordShape Value)

mutual

/-- The stored form of a message. -/
def Message.toJson : Message → Value
  | ⟨name, nested⟩ =>
    .object
      (match nested with
      | [] => [("name", .text name)]
      | inner :: others =>
        [("name", .text name), ("nested", .array (inner.toJson :: Message.listToJson others))])

/-- The stored forms of messages. -/
def Message.listToJson : List Message → List Value
  | [] => []
  | message :: rest => message.toJson :: Message.listToJson rest

end

/-- The shape of a stored message. -/
def Message.shape : RecordShape := ⟨"struct MessageSchema", ["name", "nested"]⟩

/-- A message of a record's members as they were read. -/
def Message.ofMembers (record : Record) (name : Option (Reading String))
    (nested : Option (Reading (List Message))) : Reading Message := do
  record.check [("name", Record.fault? name), ("nested", Record.fault? nested)]
  let name ← record.required "name" name
  let nested ← Record.defaulted [] nested
  record.checkEnd
  pure ⟨name, nested⟩

mutual

/-- Reads a stored message. -/
def Message.ofJson : Value → Reading Message
  | .object fields =>
    let record : Record := ⟨Message.shape, fields, none⟩
    Message.ofMembers record (record.read? "name" Value.asText) (Message.nestedOfFields fields)
  | .array [] => Message.ofMembers ⟨Message.shape, [], some 0⟩ none none
  | .array [name] => Message.ofMembers ⟨Message.shape, [], some 1⟩ (some name.asText) none
  | .array (name :: nested :: surplus) =>
    Message.ofMembers ⟨Message.shape, [], some (2 + surplus.length)⟩ (some name.asText)
      (some (Message.listOfJson nested))
  | other => .error (.unexpectedKind other Message.shape.title)
termination_by structural value => value

/-- Reads the nested messages among the fields of a stored message. -/
def Message.nestedOfFields : List (String × Value) → Option (Reading (List Message))
  | [] => none
  | (key, value) :: rest =>
    if key = "nested" then some (Message.listOfJson value) else Message.nestedOfFields rest
termination_by structural fields => fields

/-- Reads a list of stored messages. -/
def Message.listOfJson : Value → Reading (List Message)
  | .array items => Message.itemsOfJson items
  | other => .error (.unexpectedKind other "a sequence")
termination_by structural value => value

/-- Reads the items of a list of stored messages. -/
def Message.itemsOfJson : List Value → Reading (List Message)
  | [] => .ok []
  | item :: rest =>
    match Message.ofJson item with
    | .error error => .error error
    | .ok message => (Message.itemsOfJson rest).map (message :: ·)
termination_by structural items => items

end

/-- The stored form of a method. -/
def Method.toJson (method : Method) : Value :=
  .object
    [("name", .text method.name),
      ("input_type", .text method.inputType.fullName),
      ("output_type", .text method.outputType.fullName),
      ("client_streaming", .bool method.clientStreaming),
      ("server_streaming", .bool method.serverStreaming)]

/-- The shape of a stored method. -/
def Method.shape : RecordShape :=
  ⟨"struct MethodSchema",
    ["name", "input_type", "output_type", "client_streaming", "server_streaming"]⟩

/-- Reads a stored type name. -/
def TypeName.ofJson (value : Value) : Reading TypeName :=
  value.asText.map TypeName.mk

/-- Reads a stored method. -/
def Method.ofJson (value : Value) : Reading Method := do
  let record ← Record.ofValue Method.shape value
  let name := record.read? "name" Value.asText
  let inputType := record.read? "input_type" TypeName.ofJson
  let outputType := record.read? "output_type" TypeName.ofJson
  let clientStreaming := record.read? "client_streaming" Value.asSwitch
  let serverStreaming := record.read? "server_streaming" Value.asSwitch
  record.check
    [("name", Record.fault? name), ("input_type", Record.fault? inputType),
      ("output_type", Record.fault? outputType),
      ("client_streaming", Record.fault? clientStreaming),
      ("server_streaming", Record.fault? serverStreaming)]
  let name ← record.required "name" name
  let inputType ← record.required "input_type" inputType
  let outputType ← record.required "output_type" outputType
  let clientStreaming ← record.required "client_streaming" clientStreaming
  let serverStreaming ← record.required "server_streaming" serverStreaming
  record.checkEnd
  pure ⟨name, inputType, outputType, clientStreaming, serverStreaming⟩

/-- The stored form of a service. -/
def Service.toJson (service : Service) : Value :=
  .object [("name", .text service.name), ("methods", .array (service.methods.map Method.toJson))]

/-- The shape of a stored service. -/
def Service.shape : RecordShape := ⟨"struct ServiceSchema", ["name", "methods"]⟩

/-- Reads a stored service. -/
def Service.ofJson (value : Value) : Reading Service := do
  let record ← Record.ofValue Service.shape value
  let name := record.read? "name" Value.asText
  let methods := record.read? "methods" (Value.asList Method.ofJson)
  record.check [("name", Record.fault? name), ("methods", Record.fault? methods)]
  let name ← record.required "name" name
  let methods ← record.required "methods" methods
  record.checkEnd
  pure ⟨name, methods⟩

/-- The stored form of file options. -/
def FileOptions.toJson (options : FileOptions) : Value :=
  .object
    [("java_package", .ofText? options.javaPackage),
      ("java_multiple_files", .bool options.javaMultipleFiles),
      ("java_outer_classname", .ofText? options.javaOuterClass)]

/-- The shape of stored file options. -/
def FileOptions.shape : RecordShape :=
  ⟨"struct FileOptions", ["java_package", "java_multiple_files", "java_outer_classname"]⟩

/-- Reads stored file options. -/
def FileOptions.ofJson (value : Value) : Reading FileOptions := do
  let record ← Record.ofValue FileOptions.shape value
  let javaPackage := record.read? "java_package" Value.asOptionalText
  let javaMultipleFiles := record.read? "java_multiple_files" Value.asSwitch
  let javaOuterClass := record.read? "java_outer_classname" Value.asOptionalText
  record.check
    [("java_package", Record.fault? javaPackage),
      ("java_multiple_files", Record.fault? javaMultipleFiles),
      ("java_outer_classname", Record.fault? javaOuterClass)]
  let javaPackage ← record.optional "java_package" javaPackage
  let javaMultipleFiles ← record.required "java_multiple_files" javaMultipleFiles
  let javaOuterClass ← record.optional "java_outer_classname" javaOuterClass
  record.checkEnd
  pure ⟨javaPackage, javaMultipleFiles, javaOuterClass⟩

namespace File

/-- The stored form of a schema file. -/
def toJson (file : File) : Value :=
  .object
    [("name", .text file.name),
      ("package", .ofText? file.package),
      ("options", file.options.toJson),
      ("messages", .array (Message.listToJson file.messages)),
      ("enums", .array (file.enums.map .text)),
      ("services", .array (file.services.map Service.toJson))]

/-- The shape of a stored schema file. -/
def shape : RecordShape :=
  ⟨"struct SchemaFile", ["name", "package", "options", "messages", "enums", "services"]⟩

/-- Reads a stored schema file, of which an object may leave out all but the name. -/
def ofJson (value : Value) : Reading File := do
  let record ← Record.ofValue shape value
  let name := record.read? "name" Value.asText
  let package := record.read? "package" Value.asOptionalText
  let options := record.read? "options" FileOptions.ofJson
  let messages := record.read? "messages" Message.listOfJson
  let enums := record.read? "enums" (Value.asList Value.asText)
  let services := record.read? "services" (Value.asList Service.ofJson)
  record.check
    [("name", Record.fault? name), ("package", Record.fault? package),
      ("options", Record.fault? options), ("messages", Record.fault? messages),
      ("enums", Record.fault? enums), ("services", Record.fault? services)]
  let name ← record.required "name" name
  let package ← record.optional "package" package
  let options ← Record.defaulted FileOptions.default options
  let messages ← Record.defaulted [] messages
  let enums ← Record.defaulted [] enums
  let services ← Record.defaulted [] services
  record.checkEnd
  pure ⟨name, package, options, messages, enums, services⟩

end File

end ServiceBindings.Schema
