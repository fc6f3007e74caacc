/-!
# Descriptors

Schema files as a compiler hands them over.  Any part may be absent, which is not the same as
empty.
-/

namespace ServiceBindings.Descriptor

/-- A message with the messages declared inside it. -/
structure Message where
  name? : Option String
  nested : List Message
deriving BEq, Repr, Inhabited

/-- An enum. -/
structure Enum where
  name? : Option String
deriving DecidableEq, Repr

/-- A remote method. -/
structure Method where
  name? : Option String
  inputType? : Option String
  outputType? : Option String
  clientStreaming? : Option Bool
  serverStreaming? : Option Bool
deriving DecidableEq, Repr

/-- A service. -/
structure Service where
  name? : Option String
  methods : List Method
deriving DecidableEq, Repr

/-- The options of a file. -/
structure FileOptions where
  javaPackage? : Option String
  javaMultipleFiles? : Option Bool
  javaOuterClass? : Option String
deriving DecidableEq, Repr

/-- A schema file. -/
structure File where
  name? : Option String
  package? : Option String
  options? : Option FileOptions
  messages : List Message
  enums : List Enum
  services : List Service
deriving BEq, Repr

/-- The name of a file, which is empty if it is absent. -/
def File.nameOrEmpty (file : File) : String := file.name?.getD ""

end ServiceBindings.Descriptor
