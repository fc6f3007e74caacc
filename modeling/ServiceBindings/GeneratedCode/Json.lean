import ServiceBindings.GeneratedCode
import ServiceBindings.Json.Reading

/-!
# Generated code as JSON

Generated code is stored as an object with the list of its files.
-/

namespace ServiceBindings

open Json (Reading Record RecordShape Value)

namespace GeneratedFile

/-- The stored form of a file. -/
def toJson (file : GeneratedFile) : Value :=
  .object [("path", .text file.path), ("content", .text file.content)]

/-- The shape of a stored file. -/
def shape : RecordShape := ⟨"struct GeneratedFile", ["path", "content"]⟩

/-- Reads a stored file. -/
def ofJson (value : Value) : Reading GeneratedFile := do
  let record ← Record.ofValue shape value
  let path := record.read? "path" Value.asText
  let content := record.read? "content" Value.asText
  record.check [("path", Record.fault? path), ("content", Record.fault? content)]
  let path ← record.required "path" path
  let content ← record.required "content" content
  record.checkEnd
  pure ⟨path, content⟩

end GeneratedFile

namespace GeneratedCode

/-- The stored form of generated code. -/
def toJson (code : GeneratedCode) : Value :=
  .object [("files", .array (code.map GeneratedFile.toJson))]

/-- The shape of stored code. -/
def shape : RecordShape := ⟨"struct GeneratedCode", ["files"]⟩

/-- Reads stored code. -/
def ofJson (value : Value) : Reading GeneratedCode := do
  let record ← Record.ofValue shape value
  let files := record.read? "files" (Value.asList GeneratedFile.ofJson)
  record.check [("files", Record.fault? files)]
  let files ← record.required "files" files
  record.checkEnd
  pure files

end GeneratedCode

end ServiceBindings
