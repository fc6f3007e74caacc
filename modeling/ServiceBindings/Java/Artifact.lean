import ServiceBindings.GeneratedCode
import ServiceBindings.Java.CallSite
import ServiceBindings.Template.Library

/-!
# Java files of a service

For either call mode, a service has a contract that declares its methods, a default
implementation of the contract, and a registration under which a service loader finds the
implementation.
-/

namespace ServiceBindings.Java

open Json (Value)

/-- Both variants of a method as data of a template, the one without routing properties
first. -/
def methodData (table : NamespaceTable) (shape : CallShape) (method : Schema.Method)
    (bodyOf : Bool → List Statement) : List Value :=
  [false, true].map fun routed => .object
    [("declaration", .text (declaration table shape method routed).text),
      ("body", .array ((bodyOf routed).map fun statement => .text statement.text))]

/-- The data of a contract. -/
def contractData (table : NamespaceTable) (space : String) (service : Schema.Service)
    (mode : CallMode) : Value :=
  .object
    [("namespace", .text space),
      ("class_name", .text (contractName service.name mode)),
      ("methods", .array (service.methods.flatMap fun method =>
        methodData table (CallShape.ofMethod method mode) method fun _ => []))]

/-- The contract of a service. -/
def contract (library : Template.Library) (root : Option String) (table : NamespaceTable)
    (space : String) (service : Schema.Service) (mode : CallMode) :
    Except GenerationError GeneratedFile := do
  let content ← library.render Template.contractName (contractData table space service mode)
  pure ⟨sourcePath root space (contractName service.name mode), content⟩

/-- The data of a default implementation, which leaves out the methods that a blocking
implementation has no place for. -/
def implementationData (table : NamespaceTable) (space : String) (service : Schema.Service)
    (mode : CallMode) : Value :=
  let stub := stubClass space service.name mode
  .object
    [("namespace", .text space),
      ("class_name", .text (implementationName service.name mode)),
      ("base_class", .text (runtimePackage ++ ".AbstractGrpcService<" ++ stub ++ ">")),
      ("contract", .text (Identifier.qualify space (contractName service.name mode))),
      ("retry_policy", .text (runtimePackage ++ ".RetryPolicy")),
      ("stub_storage", .text (runtimePackage ++ ".StubStorage<" ++ stub ++ ">")),
      ("stub_class", .text stub),
      ("grpc_class", .text (transportClass space service.name)),
      ("stub_factory", .text (stubFactory mode)),
      ("methods", .array
        ((service.methods.filter fun method =>
            (CallShape.ofMethod method mode).isImplemented).flatMap fun method =>
          let shape := CallShape.ofMethod method mode
          methodData table shape method (body shape space service.name method)))]

/-- The default implementation of a service. -/
def implementation (library : Template.Library) (root : Option String)
    (table : NamespaceTable) (space : String) (service : Schema.Service) (mode : CallMode) :
    Except GenerationError GeneratedFile := do
  let content ← library.render Template.implementationName
    (implementationData table space service mode)
  pure ⟨sourcePath root space (implementationName service.name mode), content⟩

/-- The registration of a service: a file named for the contract, which names the default
implementation. -/
def registration (root : Option String) (space : String) (service : Schema.Service)
    (mode : CallMode) : GeneratedFile :=
  { path := Path.join [root.getD "", "META-INF/services",
      Identifier.qualify space (contractName service.name mode)]
    content := Identifier.qualify space (implementationName service.name mode) ++ "\n" }

end ServiceBindings.Java
