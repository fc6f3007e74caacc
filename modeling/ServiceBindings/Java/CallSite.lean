import ServiceBindings.Java.Name
import ServiceBindings.Java.Signature

/-!
# Method bodies

How a default implementation answers a call.  The routed variant of a method acquires a stub
and hands the call to it; the other variant calls the routed one with no properties, so that
the two cannot differ in anything else.
-/

namespace ServiceBindings.Java

/-- What is passed in a call. -/
inductive Operand where
  | argument (argument : Argument)
  /-- A map of no properties. -/
  | noProperties
  /-- A message in place of a request that is not there yet. -/
  | noMessage
deriving DecidableEq, Repr

/-- An operand as it stands in a source file. -/
def Operand.text : Operand → String
  | argument passed => passed.name
  | noProperties => "java.util.Collections.emptyMap()"
  | noMessage => "com.google.protobuf.Any.getDefaultInstance()"

/-- How a stub is put to use. -/
inductive Wiring where
  /-- One request is sent and the response is waited for. -/
  | blocking
  /-- One request is sent and responses are called back. -/
  | callback
  /-- Requests are written to a stream. -/
  | stream
deriving DecidableEq, Repr

/-- The wiring of a shape. -/
def Wiring.ofShape (shape : CallShape) : Wiring :=
  match shape.mode with
  | .sync => .blocking
  | .async => if shape.clientStreaming then .stream else .callback

/-- What the routed variant is called with. -/
def Wiring.arguments : Wiring → List Argument
  | blocking => [.input, .properties]
  | callback => [.input, .properties, .observer]
  | stream => [.properties, .observer]

/-- Whether the last statement returns a value. -/
def Wiring.returnsValue : Wiring → Bool
  | blocking | stream => true
  | callback => false

/-- A statement of a method body. -/
inductive Statement where
  /-- Acquires the stub for a request. -/
  | acquireStub (stubClass : String) (request : Operand)
  /-- Calls a method of the stub. -/
  | request (wiring : Wiring) (method : String)
  /-- Calls a method of the same class. -/
  | forward (returnsValue : Bool) (method : String) (operands : List Operand)
deriving DecidableEq, Repr

namespace Statement

/-- A statement as it stands in a source file. -/
def text : Statement → String
  | acquireStub stubClass operand =>
    stubClass ++ " stub = getStub(" ++ operand.text ++ ", " ++ Argument.properties.name ++ ");"
  | request .blocking method =>
    "return createBlockingRequest(() -> stub." ++ method ++ "(" ++ Argument.input.name ++ "));"
  | request .callback method =>
    "createAsyncRequest(" ++ Argument.observer.name ++ ", (newObserver) -> stub." ++ method ++
      "(" ++ Argument.input.name ++ ", newObserver));"
  | request .stream method =>
    "return createAsyncStreamRequest(" ++ Argument.observer.name ++ ", stub::" ++ method ++ ");"
  | forward returnsValue method operands =>
    (if returnsValue then "return " else "") ++ method ++ "(" ++
      String.intercalate ", " (operands.map Operand.text) ++ ");"

theorem text_acquireStub (stubClass : String) (operand : Operand) :
    (acquireStub stubClass operand).text =
      stubClass ++ " stub = getStub(" ++ operand.text ++ ", " ++ Argument.properties.name ++ ");" :=
  rfl

theorem text_request (wiring : Wiring) (method : String) :
    (request wiring method).text =
      match wiring with
      | .blocking => "return createBlockingRequest(() -> stub." ++ method ++ "(" ++
          Argument.input.name ++ "));"
      | .callback => "createAsyncRequest(" ++ Argument.observer.name ++
          ", (newObserver) -> stub." ++ method ++ "(" ++ Argument.input.name ++ ", newObserver));"
      | .stream => "return createAsyncStreamRequest(" ++ Argument.observer.name ++ ", stub::" ++
          method ++ ");" := by
  cases wiring <;> rfl

theorem text_forward (returnsValue : Bool) (method : String) (operands : List Operand) :
    (forward returnsValue method operands).text =
      (if returnsValue then "return " else "") ++ method ++ "(" ++
        String.intercalate ", " (operands.map Operand.text) ++ ");" := rfl

/-- The parameters that a statement uses. -/
def uses : Statement → List Argument
  | acquireStub _ operand => operandUses operand ++ [.properties]
  | request .blocking _ => [.input]
  | request .callback _ => [.observer, .input]
  | request .stream _ => [.observer]
  | forward _ _ operands => operands.flatMap operandUses
where
  /-- The parameters that an operand uses. -/
  operandUses : Operand → List Argument
    | .argument passed => [passed]
    | .noProperties | .noMessage => []

end Statement

/-- The body of the routed variant of a method. -/
def routedBody (shape : CallShape) (space service method : String) : List Statement :=
  let wiring := Wiring.ofShape shape
  let operand := match wiring with
    | .stream => .noMessage
    | _ => .argument .input
  [.acquireStub (stubClass space service shape.mode) operand, .request wiring method]

/-- The body of the variant of a method without routing properties. -/
def forwardingBody (shape : CallShape) (method : String) : List Statement :=
  let wiring := Wiring.ofShape shape
  [.forward wiring.returnsValue method (wiring.arguments.map fun argument =>
    if argument = .properties then .noProperties else .argument argument)]

/-- The body of a method of a service, whose transport class is in the given namespace. -/
def body (shape : CallShape) (space service : String) (method : Schema.Method)
    (routed : Bool) : List Statement :=
  let name := Identifier.lowerFirst method.name
  if routed then routedBody shape space service name else forwardingBody shape name

end ServiceBindings.Java
