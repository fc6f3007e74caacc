import ServiceBindings.CallShape
import ServiceBindings.NamespaceTable

/-!
# Method declarations

Every method is declared twice: with routing properties, and without them.
-/

namespace ServiceBindings.Java

/-- What a generated method may take. -/
inductive Argument where
  /-- The request message. -/
  | input
  /-- The routing properties. -/
  | properties
  /-- The receiver of the responses. -/
  | observer
deriving DecidableEq, Repr

/-- The name of the parameter. -/
def Argument.name : Argument → String
  | input => "input"
  | properties => "properties"
  | observer => "observer"

/-- A parameter with its type. -/
structure Parameter where
  type : String
  argument : Argument
deriving DecidableEq, Repr

/-- A parameter as it is declared. -/
def Parameter.text (parameter : Parameter) : String :=
  parameter.type ++ " " ++ parameter.argument.name

/-- A method declaration without modifiers. -/
structure Signature where
  methodName : String
  returnType : String
  parameters : List Parameter
deriving DecidableEq, Repr

namespace Signature

/-- The parameters between the parentheses. -/
def parameterList (signature : Signature) : String :=
  String.intercalate ", " (signature.parameters.map Parameter.text)

/-- Whether routing properties are taken. -/
def hasProperties (signature : Signature) : Bool :=
  signature.parameters.any (·.argument == .properties)

/-- The declaration as it stands in a source file. -/
def text (signature : Signature) : String :=
  signature.returnType ++ " " ++ signature.methodName ++ "(" ++ signature.parameterList ++ ")"

end Signature

/-- The type of routing properties. -/
def propertiesType : String := "java.util.Map<java.lang.String, java.lang.String>"

/-- The type of a receiver of messages. -/
def observerType (message : String) : String := "io.grpc.stub.StreamObserver<" ++ message ++ ">"

/-- The type of a sequence of messages. -/
def iteratorType (message : String) : String := "java.util.Iterator<" ++ message ++ ">"

/-- What a method returns, given its input and output types.  A blocking method returns its
response or the sequence of them; a callback-driven one returns nothing, or a receiver for
the requests if they are streamed. -/
def returnType (shape : CallShape) (input output : String) : String :=
  match shape.mode with
  | .sync => if shape.serverStreaming then iteratorType output else output
  | .async => if shape.clientStreaming then observerType input else "void"

/-- What a method takes, in order. -/
def arguments (shape : CallShape) (routed : Bool) : List Argument :=
  (if shape.takesInput then [.input] else []) ++
    ((if routed then [.properties] else []) ++
      (if shape.mode = .async then [.observer] else []))

/-- The type of a parameter, given the input and output types of its method. -/
def argumentType (input output : String) : Argument → String
  | .input => input
  | .properties => propertiesType
  | .observer => observerType output

/-- The declaration of a method, with routing properties if it is the routed variant. -/
def declaration (table : NamespaceTable) (shape : CallShape) (method : Schema.Method)
    (routed : Bool) : Signature :=
  let input := (table.resolve method.inputType).text
  let output := (table.resolve method.outputType).text
  { methodName := Identifier.lowerFirst method.name
    returnType := returnType shape input output
    parameters := (arguments shape routed).map fun argument =>
      ⟨argumentType input output argument, argument⟩ }

end ServiceBindings.Java
