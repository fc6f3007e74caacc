import ServiceBindings.Error
import ServiceBindings.Schema.Basic
import ServiceBindings.Text.Letter

/-!
# Call shapes

How a generated method is called: it blocks or calls back, and on either side there is one
message or a stream of them.  Everything that is generated for a method depends on the
method only through its shape, its name and its types.
-/

namespace ServiceBindings

/-- The two styles of calling. -/
inductive CallMode where
  /-- The caller waits for the response. -/
  | sync
  /-- Responses are handed to an observer. -/
  | async
deriving DecidableEq, Repr

namespace CallMode

/-- Both modes in the order of generation. -/
def all : List CallMode := [sync, async]

/-- The name of a mode. -/
def name : CallMode → String
  | sync => "sync"
  | async => "async"

/-- The mode that a word names in any mixture of cases. -/
def parse (word : String) : Except GenerationError CallMode :=
  match Text.lowercase word with
  | "sync" | "blocking" => .ok sync
  | "async" => .ok async
  | _ => .error (.invalidArgument
      ("invalid call mode: '" ++ word ++ "' (expected: sync or async)"))

end CallMode

/-- One of the eight ways to call a method. -/
structure CallShape where
  mode : CallMode
  clientStreaming : Bool
  serverStreaming : Bool
deriving DecidableEq, Repr

namespace CallShape

/-- Every shape, blocking ones first. -/
def all : List CallShape :=
  CallMode.all.flatMap fun mode =>
    [⟨mode, false, false⟩, ⟨mode, true, false⟩, ⟨mode, false, true⟩, ⟨mode, true, true⟩]

/-- The shape of a method in a mode. -/
def ofMethod (method : Schema.Method) (mode : CallMode) : CallShape :=
  ⟨mode, method.clientStreaming, method.serverStreaming⟩

/-- The name of a shape. -/
def name (shape : CallShape) : String :=
  match shape.clientStreaming, shape.serverStreaming with
  | false, false => shape.mode.name
  | true, false => shape.mode.name ++ "-client-streaming"
  | false, true => shape.mode.name ++ "-server-streaming"
  | true, true => shape.mode.name ++ "-bidirectional"

/-- The shape with a name. -/
def ofName? (word : String) : Option CallShape :=
  all.find? (·.name == word)

/-- Whether the request message is a parameter; streamed requests are written to an observer
instead. -/
def takesInput (shape : CallShape) : Bool := !shape.clientStreaming

/-- Whether a default implementation provides methods of this shape.  A blocking transport
issues one request in a call, so it has no place for streamed requests. -/
def isImplemented (shape : CallShape) : Bool :=
  match shape.mode with
  | .sync => !shape.clientStreaming
  | .async => true

end CallShape

end ServiceBindings
