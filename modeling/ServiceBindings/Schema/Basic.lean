import ServiceBindings.Identifier
import ServiceBindings.Text.Segments

/-!
# Schema files

What one generation reads: files that declare messages, enums and services, with the options
that place the generated message classes.
-/

namespace ServiceBindings.Schema

/-- The name of a message type as a method refers to it, with its package and the messages
around it, separated by dots. -/
structure TypeName where
  fullName : String
deriving DecidableEq, Repr

namespace TypeName

/-- The type name that a text denotes; leading dots are no part of it. -/
def ofText (text : String) : TypeName := ⟨Text.trimStart '.' text⟩

/-- The name after the last dot. -/
def simpleName (type : TypeName) : String :=
  match Text.cutLast? '.' type.fullName with
  | some (_, last) => last
  | none => type.fullName

/-- Whether no type is named. -/
def isEmpty (type : TypeName) : Bool := type.fullName.isEmpty

end TypeName

/-- A message with the messages declared inside it. -/
structure Message where
  name : String
  nested : List Message
deriving BEq, Repr, Inhabited

/-- A remote method.  Either side of the call may be a stream of messages. -/
structure Method where
  name : String
  inputType : TypeName
  outputType : TypeName
  clientStreaming : Bool
  serverStreaming : Bool
deriving DecidableEq, Repr

/-- A service and its methods in the order of declaration. -/
structure Service where
  name : String
  methods : List Method
deriving DecidableEq, Repr

/-- The options that decide where message classes live in generated Java. -/
structure FileOptions where
  /-- The Java package, if it is not the declared one. -/
  javaPackage : Option String
  /-- Whether message classes stand by themselves instead of inside an outer class. -/
  javaMultipleFiles : Bool
  /-- The name of the outer class, if it is not derived from the file name. -/
  javaOuterClass : Option String
deriving DecidableEq, Repr

/-- The options of a file that sets none. -/
def FileOptions.default : FileOptions := ⟨none, false, none⟩

/-- A schema file.  Only top-level messages, enums and services are listed; a message holds
the ones nested in it. -/
structure File where
  name : String
  package : Option String
  options : FileOptions
  messages : List Message
  enums : List String
  services : List Service
deriving BEq, Repr

namespace File

/-- The declared package, or the empty one. -/
def packageOrEmpty (file : File) : String := file.package.getD ""

/-- The full name of a top-level declaration. -/
def qualify (file : File) (name : String) : String :=
  Identifier.qualify file.packageOrEmpty name

end File

end ServiceBindings.Schema
