import ServiceBindings.Dictionary
import ServiceBindings.Path
import ServiceBindings.Schema.Basic

/-!
# The namespace table

Every message of all schema files together, with the Java namespace of its class.  The table
holds the first declaration of every full name, in the order of the files and, within a
file, with an outer message before the ones nested in it.
-/

namespace ServiceBindings

open Schema

/-- The name of the class around the message classes of a file: the one that the file sets,
or its base name in UpperCamelCase.  If that is the name of a top-level declaration,
`OuterClass` is appended. -/
def Schema.File.outerClass (file : File) : String :=
  match file.options.javaOuterClass with
  | some name => name
  | none =>
    let derived := Identifier.upperCamel (Path.directoryAndStem file.name).2
    let declared := file.messages.map (·.name) ++ file.enums ++ file.services.map (·.name)
    if declared.contains derived then derived ++ "OuterClass" else derived

/-- The Java namespace of the top-level message classes of a file. -/
def Schema.File.space (file : File) : String :=
  let base := file.options.javaPackage.getD file.packageOrEmpty
  if file.options.javaMultipleFiles then base else Identifier.qualify base file.outerClass

/-- A message's full name and the Java namespace of its class. -/
structure Declaration where
  fullName : String
  space : String
deriving DecidableEq, Repr

mutual

/-- The declarations of a message, given its full name and namespace: the message itself
and then the ones nested in it. -/
def Schema.Message.declarations (fullName space : String) : Message → List Declaration
  | ⟨name, nested⟩ =>
    ⟨fullName, space⟩ ::
      Message.nestedDeclarations fullName (Identifier.qualify space name) nested

/-- The declarations of the messages nested in a message of the given full name. -/
def Schema.Message.nestedDeclarations (outer space : String) : List Message → List Declaration
  | [] => []
  | message :: rest =>
    message.declarations (outer ++ "." ++ message.name) space ++
      Message.nestedDeclarations outer space rest

end

/-- The declarations of a file in order. -/
def Schema.File.declarations (file : File) : List Declaration :=
  file.messages.flatMap fun message =>
    message.declarations (file.qualify message.name) file.space

/-- The namespace of every declared message, by full name. -/
structure NamespaceTable where
  spaces : Dictionary String
deriving DecidableEq, Repr

namespace NamespaceTable

/-- The table of declarations, of which the first one of a name counts. -/
def ofDeclarations (declarations : List Declaration) : NamespaceTable :=
  ⟨declarations.foldl (fun spaces declaration =>
    spaces.insertNew declaration.fullName declaration.space) .empty⟩

/-- The table of all files of a generation. -/
def ofFiles (files : List File) : NamespaceTable :=
  ofDeclarations (files.flatMap File.declarations)

/-- The namespace of the message with a full name. -/
def spaceOf? (table : NamespaceTable) (fullName : String) : Option String :=
  table.spaces.find? fullName

end NamespaceTable

/-- A Java class as a reference resolves to it. -/
structure ClassName where
  /-- The namespace, empty if the reference names no message of the table. -/
  space : String
  name : String
deriving DecidableEq, Repr

namespace ClassName

/-- Whether the reference was found. -/
def isQualified (className : ClassName) : Bool := !className.space.isEmpty

/-- The class as Java refers to it. -/
def text (className : ClassName) : String := Identifier.qualify className.space className.name

end ClassName

/-- The Java class of a message type.  A type that is not in the table keeps its simple name
and no namespace. -/
def NamespaceTable.resolve (table : NamespaceTable) (type : TypeName) : ClassName :=
  ⟨(table.spaceOf? type.fullName).getD "", type.simpleName⟩

end ServiceBindings
