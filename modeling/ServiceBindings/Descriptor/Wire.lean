import ServiceBindings.Descriptor.Basic
import ServiceBindings.Error
import ServiceBindings.Wire.Decoding
import ServiceBindings.Wire.Encoding

/-!
# Descriptors on the wire

Descriptors as the fields of messages, and sets of descriptors as octets.
-/

namespace ServiceBindings.Descriptor

open Wire (Fields)

mutual

/-- The messages nested in a message with the given fields. -/
def Message.nestedOfFields : List (Nat × Wire.Value) → List Message
  | [] => []
  | (number, value) :: rest =>
    (if number = 3 then Message.ofValue value else []) ++ Message.nestedOfFields rest
termination_by structural fields => fields

/-- The message that a value holds, if it holds one. -/
def Message.ofValue : Wire.Value → List Message
  | .message fields => [⟨Fields.text? fields 1, Message.nestedOfFields fields⟩]
  | _ => []
termination_by structural value => value

end

/-- The message with the given fields. -/
def Message.ofFields (fields : Fields) : Message :=
  ⟨fields.text? 1, Message.nestedOfFields fields⟩

mutual

/-- The fields of a message. -/
def Message.toFields : Message → Fields
  | ⟨name?, nested⟩ => Fields.ofText? 1 name? ++ Fields.ofMessages 3 (Message.listToFields nested)

/-- The fields of messages. -/
def Message.listToFields : List Message → List Fields
  | [] => []
  | message :: rest => message.toFields :: Message.listToFields rest

end

/-- The enum with the given fields. -/
def Enum.ofFields (fields : Fields) : Enum := ⟨fields.text? 1⟩

/-- The fields of an enum. -/
def Enum.toFields (enum : Enum) : Fields := Fields.ofText? 1 enum.name?

/-- The method with the given fields. -/
def Method.ofFields (fields : Fields) : Method where
  name? := fields.text? 1
  inputType? := fields.text? 2
  outputType? := fields.text? 3
  clientStreaming? := fields.flag? 5
  serverStreaming? := fields.flag? 6

/-- The fields of a method. -/
def Method.toFields (method : Method) : Fields :=
  Fields.ofText? 1 method.name? ++ Fields.ofText? 2 method.inputType? ++
    Fields.ofText? 3 method.outputType? ++ Fields.ofFlag? 5 method.clientStreaming? ++
    Fields.ofFlag? 6 method.serverStreaming?

/-- The service with the given fields. -/
def Service.ofFields (fields : Fields) : Service where
  name? := fields.text? 1
  methods := (fields.messages 2).map Method.ofFields

/-- The fields of a service. -/
def Service.toFields (service : Service) : Fields :=
  Fields.ofText? 1 service.name? ++ Fields.ofMessages 2 (service.methods.map Method.toFields)

/-- The file options with the given fields. -/
def FileOptions.ofFields (fields : Fields) : FileOptions where
  javaPackage? := fields.text? 1
  javaMultipleFiles? := fields.flag? 10
  javaOuterClass? := fields.text? 8

/-- The fields of file options. -/
def FileOptions.toFields (options : FileOptions) : Fields :=
  Fields.ofText? 1 options.javaPackage? ++ Fields.ofText? 8 options.javaOuterClass? ++
    Fields.ofFlag? 10 options.javaMultipleFiles?

/-- The file with the given fields. -/
def File.ofFields (fields : Fields) : File where
  name? := fields.text? 1
  package? := fields.text? 2
  options? := (fields.merged? 8).map FileOptions.ofFields
  messages := (fields.messages 4).map Message.ofFields
  enums := (fields.messages 5).map Enum.ofFields
  services := (fields.messages 6).map Service.ofFields

/-- The fields of a file. -/
def File.toFields (file : File) : Fields :=
  Fields.ofText? 1 file.name? ++ Fields.ofText? 2 file.package? ++
    Fields.ofMessages 4 (Message.listToFields file.messages) ++
    Fields.ofMessages 5 (file.enums.map Enum.toFields) ++
    Fields.ofMessages 6 (file.services.map Service.toFields) ++
    Fields.ofMessages 8 (file.options?.toList.map FileOptions.toFields)

/-- The octets of a set of descriptors. -/
def encodeSet (files : List File) : List UInt8 :=
  Wire.encode (Fields.ofMessages 1 (files.map File.toFields))

/-- The set of descriptors that octets encode. -/
def decodeSet (octets : List UInt8) : Except Wire.DecodeError (List File) :=
  (Wire.decode .descriptorSet octets).map fun fields => (fields.messages 1).map File.ofFields

/-- The set of descriptors that the octets of a source encode; the source is named in the
error. -/
def decodeSource (source : String) (octets : List UInt8) :
    Except GenerationError (List File) :=
  (decodeSet octets).mapError fun error =>
    .malformedSchema source ("not a FileDescriptorSet: " ++ error.message)

end ServiceBindings.Descriptor
