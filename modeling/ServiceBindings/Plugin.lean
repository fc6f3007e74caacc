import ServiceBindings.Descriptor.Ingestion
import ServiceBindings.Descriptor.Wire
import ServiceBindings.Generation

/-!
# Answering a compiler

A compiler sends a request with descriptors, and the names of those to generate code for.
The response holds all generated files, or the text of one error.
-/

namespace ServiceBindings.Plugin

open Wire (Fields)

/-- A request for code. -/
structure Request where
  /-- The names of the files to generate code for. -/
  selection : List String
  /-- Generator options. -/
  parameter? : Option String
  descriptors : List Descriptor.File
deriving BEq, Repr

/-- The answer to a request. -/
structure Response where
  error? : Option String
  files : GeneratedCode
deriving DecidableEq, Repr

namespace Request

/-- The code that a request asks for. -/
def generate (request : Request) : Except GenerationError GeneratedCode := do
  let files ← Descriptor.toSchemas request.descriptors
  Generation.runOptions (Options.parse (request.parameter?.getD "")) files request.selection

/-- The response to a request. -/
def respond (request : Request) : Response :=
  match request.generate with
  | .ok code => ⟨none, code⟩
  | .error error => ⟨some error.message, []⟩

/-- The request that octets encode. -/
def decode (octets : List UInt8) : Except Wire.DecodeError Request :=
  (Wire.decode .request octets).map fun fields =>
    { selection := fields.texts 1
      parameter? := fields.text? 2
      descriptors := (fields.messages 15).map Descriptor.File.ofFields }

end Request

namespace Response

/-- The bits of the optional features of schema files that generation copes with: optional
fields. -/
def supportedFeatures : Nat := 1

/-- The fields of a response. -/
def toFields (response : Response) : Fields :=
  Fields.ofText? 1 response.error? ++ ((2, .number supportedFeatures) ::
    Fields.ofMessages 15 (response.files.map fun file =>
      [(1, .text file.path), (15, .text file.content)]))

/-- The octets of a response. -/
def encode (response : Response) : List UInt8 := Wire.encode response.toFields

end Response

end ServiceBindings.Plugin
