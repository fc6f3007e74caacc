import ServiceBindings.Wire.Error

/-!
# Messages on the wire

Which fields the known kinds of messages have, whether or not a descriptor keeps what they
hold: a message is malformed as well if a field is that nothing is made of.  Fields that are not
listed are passed over when a message is read.
-/

namespace ServiceBindings.Wire

/-- A known kind of message. -/
inductive MessageKind where
  | descriptorSet
  | request
  | compilerVersion
  | file
  | message
  | extensionRange
  | reservedRange
  | field
  | oneof
  | enum
  | enumReservedRange
  | enumValue
  | service
  | method
  | fileOptions
  | messageOptions
  | extensionRangeOptions
  | fieldOptions
  | oneofOptions
  | enumOptions
  | enumValueOptions
  | serviceOptions
  | methodOptions
  | uninterpretedOption
  | namePart
  | sourceCodeInfo
  | location
deriving DecidableEq, Repr

/-- What the payload of a field is. -/
inductive FieldKind where
  | text
  | octets
  /-- An integer, a truth value or a value of an enum. -/
  | number
  /-- Integers: one in each occurrence of the field, or any number of them in one. -/
  | numbers
  /-- A floating-point number of eight octets. -/
  | double
  | message (kind : MessageKind)
deriving DecidableEq, Repr

/-- The wire type of a kind of field. -/
def FieldKind.wireType : FieldKind → WireType
  | number | numbers => .varint
  | double => .sixtyFourBit
  | text | octets | message _ => .lengthDelimited

/-- A known field. -/
structure Field where
  number : Nat
  name : String
  kind : FieldKind
deriving DecidableEq, Repr

namespace MessageKind

/-- The name of a kind of message. -/
def name : MessageKind → String
  | descriptorSet => "FileDescriptorSet"
  | request => "CodeGeneratorRequest"
  | compilerVersion => "Version"
  | file => "FileDescriptorProto"
  | message => "DescriptorProto"
  | extensionRange => "ExtensionRange"
  | reservedRange => "ReservedRange"
  | field => "FieldDescriptorProto"
  | oneof => "OneofDescriptorProto"
  | enum => "EnumDescriptorProto"
  | enumReservedRange => "EnumReservedRange"
  | enumValue => "EnumValueDescriptorProto"
  | service => "ServiceDescriptorProto"
  | method => "MethodDescriptorProto"
  | fileOptions => "FileOptions"
  | messageOptions => "MessageOptions"
  | extensionRangeOptions => "ExtensionRangeOptions"
  | fieldOptions => "FieldOptions"
  | oneofOptions => "OneofOptions"
  | enumOptions => "EnumOptions"
  | enumValueOptions => "EnumValueOptions"
  | serviceOptions => "ServiceOptions"
  | methodOptions => "MethodOptions"
  | uninterpretedOption => "UninterpretedOption"
  | namePart => "NamePart"
  | sourceCodeInfo => "SourceCodeInfo"
  | location => "Location"

/-- The field of all kinds of options for those that the compiler did not interpret. -/
def uninterpretedOptions : Field :=
  ⟨999, "uninterpreted_option", .message uninterpretedOption⟩

/-- The fields of a range of numbers. -/
def rangeFields : List Field := [⟨1, "start", .number⟩, ⟨2, "end", .number⟩]

/-- The known fields of a kind of message. -/
def fields : MessageKind → List Field
  | descriptorSet => [⟨1, "file", .message file⟩]
  | request =>
    [⟨1, "file_to_generate", .text⟩, ⟨2, "parameter", .text⟩,
      ⟨3, "compiler_version", .message compilerVersion⟩, ⟨15, "proto_file", .message file⟩]
  | compilerVersion =>
    [⟨1, "major", .number⟩, ⟨2, "minor", .number⟩, ⟨3, "patch", .number⟩, ⟨4, "suffix", .text⟩]
  | file =>
    [⟨1, "name", .text⟩, ⟨2, "package", .text⟩, ⟨3, "dependency", .text⟩,
      ⟨4, "message_type", .message message⟩, ⟨5, "enum_type", .message enum⟩,
      ⟨6, "service", .message service⟩, ⟨7, "extension", .message field⟩,
      ⟨8, "options", .message fileOptions⟩, ⟨9, "source_code_info", .message sourceCodeInfo⟩,
      ⟨10, "public_dependency", .numbers⟩, ⟨11, "weak_dependency", .numbers⟩,
      ⟨12, "syntax", .text⟩]
  | message =>
    [⟨1, "name", .text⟩, ⟨2, "field", .message field⟩, ⟨3, "nested_type", .message message⟩,
      ⟨4, "enum_type", .message enum⟩, ⟨5, "extension_range", .message extensionRange⟩,
      ⟨6, "extension", .message field⟩, ⟨7, "options", .message messageOptions⟩,
      ⟨8, "oneof_decl", .message oneof⟩, ⟨9, "reserved_range", .message reservedRange⟩,
      ⟨10, "reserved_name", .text⟩]
  | extensionRange => rangeFields ++ [⟨3, "options", .message extensionRangeOptions⟩]
  | reservedRange | enumReservedRange => rangeFields
  | field =>
    [⟨1, "name", .text⟩, ⟨2, "extendee", .text⟩, ⟨3, "number", .number⟩, ⟨4, "label", .number⟩,
      ⟨5, "r#type", .number⟩, ⟨6, "type_name", .text⟩, ⟨7, "default_value", .text⟩,
      ⟨8, "options", .message fieldOptions⟩, ⟨9, "oneof_index", .number⟩,
      ⟨10, "json_name", .text⟩, ⟨17, "proto3_optional", .number⟩]
  | oneof => [⟨1, "name", .text⟩, ⟨2, "options", .message oneofOptions⟩]
  | enum =>
    [⟨1, "name", .text⟩, ⟨2, "value", .message enumValue⟩, ⟨3, "options", .message enumOptions⟩,
      ⟨4, "reserved_range", .message enumReservedRange⟩, ⟨5, "reserved_name", .text⟩]
  | enumValue =>
    [⟨1, "name", .text⟩, ⟨2, "number", .number⟩, ⟨3, "options", .message enumValueOptions⟩]
  | service =>
    [⟨1, "name", .text⟩, ⟨2, "method", .message method⟩, ⟨3, "options", .message serviceOptions⟩]
  | method =>
    [⟨1, "name", .text⟩, ⟨2, "input_type", .text⟩, ⟨3, "output_type", .text⟩,
      ⟨4, "options", .message methodOptions⟩, ⟨5, "client_streaming", .number⟩,
      ⟨6, "server_streaming", .number⟩]
  | fileOptions =>
    [⟨1, "java_package", .text⟩, ⟨8, "java_outer_classname", .text⟩,
      ⟨9, "optimize_for", .number⟩, ⟨10, "java_multiple_files", .number⟩,
      ⟨11, "go_package", .text⟩, ⟨16, "cc_generic_services", .number⟩,
      ⟨17, "java_generic_services", .number⟩, ⟨18, "py_generic_services", .number⟩,
      ⟨20, "java_generate_equals_and_hash", .number⟩, ⟨23, "deprecated", .number⟩,
      ⟨27, "java_string_check_utf8", .number⟩, ⟨31, "cc_enable_arenas", .number⟩,
      ⟨36, "objc_class_prefix", .text⟩, ⟨37, "csharp_namespace", .text⟩,
      ⟨39, "swift_prefix", .text⟩, ⟨40, "php_class_prefix", .text⟩, ⟨41, "php_namespace", .text⟩,
      ⟨42, "php_generic_services", .number⟩, ⟨44, "php_metadata_namespace", .text⟩,
      ⟨45, "ruby_package", .text⟩, uninterpretedOptions]
  | messageOptions =>
    [⟨1, "message_set_wire_format", .number⟩, ⟨2, "no_standard_descriptor_accessor", .number⟩,
      ⟨3, "deprecated", .number⟩, ⟨7, "map_entry", .number⟩, uninterpretedOptions]
  | fieldOptions =>
    [⟨1, "ctype", .number⟩, ⟨2, "packed", .number⟩, ⟨3, "deprecated", .number⟩,
      ⟨5, "lazy", .number⟩, ⟨6, "jstype", .number⟩, ⟨10, "weak", .number⟩, uninterpretedOptions]
  | extensionRangeOptions | oneofOptions => [uninterpretedOptions]
  | enumOptions =>
    [⟨2, "allow_alias", .number⟩, ⟨3, "deprecated", .number⟩, uninterpretedOptions]
  | enumValueOptions => [⟨1, "deprecated", .number⟩, uninterpretedOptions]
  | serviceOptions => [⟨33, "deprecated", .number⟩, uninterpretedOptions]
  | methodOptions =>
    [⟨33, "deprecated", .number⟩, ⟨34, "idempotency_level", .number⟩, uninterpretedOptions]
  | uninterpretedOption =>
    [⟨2, "name", .message namePart⟩, ⟨3, "identifier_value", .text⟩,
      ⟨4, "positive_int_value", .number⟩, ⟨5, "negative_int_value", .number⟩,
      ⟨6, "double_value", .double⟩, ⟨7, "string_value", .octets⟩, ⟨8, "aggregate_value", .text⟩]
  | namePart => [⟨1, "name_part", .text⟩, ⟨2, "is_extension", .number⟩]
  | sourceCodeInfo => [⟨1, "location", .message location⟩]
  | location =>
    [⟨1, "path", .numbers⟩, ⟨2, "span", .numbers⟩, ⟨3, "leading_comments", .text⟩,
      ⟨4, "trailing_comments", .text⟩, ⟨6, "leading_detached_comments", .text⟩]

/-- The known field with a number. -/
def field? (kind : MessageKind) (number : Nat) : Option Field :=
  kind.fields.find? (·.number == number)

end MessageKind

/-- The payload of a field. -/
inductive Value where
  | number (value : Nat)
  /-- The integers in one occurrence of a field. -/
  | numbers (values : List Nat)
  /-- The octets of a floating-point number. -/
  | double (octets : List UInt8)
  | text (value : String)
  | octets (content : List UInt8)
  /-- The fields of a message in order, each with its number. -/
  | message (fields : List (Nat × Value))
deriving BEq, Repr, Inhabited

/-- The fields of a message in order, each with its number.  Of a field that holds one number
or text, the last occurrence counts; occurrences of a field that holds one message are taken
together. -/
abbrev Fields := List (Nat × Value)

namespace Fields

/-- The values of a field in order. -/
def all (fields : Fields) (number : Nat) : List Value :=
  (fields.filter (·.1 == number)).map (·.2)

/-- The text of a field. -/
def text? (fields : Fields) (number : Nat) : Option String :=
  ((fields.all number).filterMap fun value =>
    match value with
    | .text text => some text
    | _ => none).getLast?

/-- The truth value of a field: any number but zero is true. -/
def flag? (fields : Fields) (number : Nat) : Option Bool :=
  ((fields.all number).filterMap fun value =>
    match value with
    | .number number => some (number != 0)
    | _ => none).getLast?

/-- The texts of a repeated field. -/
def texts (fields : Fields) (number : Nat) : List String :=
  (fields.all number).filterMap fun value =>
    match value with
    | .text text => some text
    | _ => none

/-- The fields of the messages of a repeated field. -/
def messages (fields : Fields) (number : Nat) : List Fields :=
  (fields.all number).filterMap fun value =>
    match value with
    | .message inner => some inner
    | _ => none

/-- The fields of a message in a field, from all its occurrences. -/
def merged? (fields : Fields) (number : Nat) : Option Fields :=
  match fields.messages number with
  | [] => none
  | occurrences => some occurrences.flatten

end Fields

end ServiceBindings.Wire
