import ServiceBindings.CallShape
import ServiceBindings.Identifier
import ServiceBindings.Path

/-!
# Names of generated Java

The classes that are generated for a service, the classes that they use, and where their
source files are.
-/

namespace ServiceBindings.Java

/-- The package of the runtime library that generated classes build on. -/
def runtimePackage : String := "com.exactpro.th2.service"

/-- The interface that declares a service. -/
def contractName (service : String) : CallMode → String
  | .sync => service ++ "Service"
  | .async => "Async" ++ service ++ "Service"

/-- The class that implements a service by default. -/
def implementationName (service : String) : CallMode → String
  | .sync => service ++ "DefaultBlockingImpl"
  | .async => service ++ "DefaultAsyncImpl"

/-- The transport class of a service. -/
def transportClass (space service : String) : String :=
  Identifier.qualify space (service ++ "Grpc")

/-- The stub class of a service, which is nested in its transport class. -/
def stubClass (space service : String) (mode : CallMode) : String :=
  transportClass space service ++ "." ++ service ++
    match mode with
    | .sync => "BlockingStub"
    | .async => "Stub"

/-- The method of a transport class that makes a stub. -/
def stubFactory : CallMode → String
  | .sync => "newBlockingStub"
  | .async => "newStub"

/-- The path of the source file of a class, below a root directory if there is one. -/
def sourcePath (root : Option String) (space className : String) : String :=
  Path.join [root.getD "", Text.replaceChar '.' '/' space, className ++ ".java"]

end ServiceBindings.Java
