import ServiceBindings.Java.Artifact
import ServiceBindings.Proofs.Template.Rendering
import ServiceBindings.Proofs.Text.Lines

/-!
# The text of Java files

Contracts and default implementations line by line.  Whatever a service declares, the
standard templates can be filled with its data, and the generated texts consist of exactly
these lines.
-/

namespace ServiceBindings.Java

open Json (Value)
open Template (standardLibrary)

/-- A method as it stands in a Java file. -/
structure WrittenMethod where
  declaration : String
  statements : List String
deriving DecidableEq, Repr

namespace WrittenMethod

/-- A method as data of a template. -/
def data (method : WrittenMethod) : Value :=
  .object [("declaration", .text method.declaration),
    ("body", .array (method.statements.map .text))]

/-- The lines of a method that overrides another one. -/
def lines (method : WrittenMethod) : List String :=
  ["", "    @java.lang.Override", "    public " ++ method.declaration ++ " \x7b"] ++
    (method.statements.map ("        " ++ ·) ++ ["    \x7d"])

end WrittenMethod

/-- One variant of a method as it is written. -/
def writtenMethod (table : NamespaceTable) (shape : CallShape) (method : Schema.Method)
    (bodyOf : Bool → List Statement) (routed : Bool) : WrittenMethod :=
  ⟨(declaration table shape method routed).text, (bodyOf routed).map Statement.text⟩

theorem methodData_eq (table : NamespaceTable) (shape : CallShape) (method : Schema.Method)
    (bodyOf : Bool → List Statement) :
    methodData table shape method bodyOf =
      ([false, true].map (writtenMethod table shape method bodyOf)).map
        WrittenMethod.data := by
  simp [methodData, writtenMethod, WrittenMethod.data, List.map_map, Function.comp_def]

/-- The declarations of methods in a mode, both variants of each method. -/
def declarations (table : NamespaceTable) (mode : CallMode) (methods : List Schema.Method) :
    List String :=
  methods.flatMap fun method => [false, true].map fun routed =>
    (declaration table (CallShape.ofMethod method mode) method routed).text

/-- Both variants of each method of a contract, which have no bodies there. -/
def declaredMethods (table : NamespaceTable) (service : Schema.Service) (mode : CallMode) :
    List WrittenMethod :=
  service.methods.flatMap fun method => [false, true].map
    (writtenMethod table (CallShape.ofMethod method mode) method fun _ => [])

theorem map_declaration_declaredMethods (table : NamespaceTable) (service : Schema.Service)
    (mode : CallMode) :
    (declaredMethods table service mode).map WrittenMethod.declaration =
      declarations table mode service.methods := by
  simp [declaredMethods, declarations, writtenMethod, List.map_flatMap]

/-- The methods of a default implementation in a mode. -/
def implementedMethods (mode : CallMode) (methods : List Schema.Method) : List Schema.Method :=
  methods.filter fun method => (CallShape.ofMethod method mode).isImplemented

/-- Both variants of each method of a default implementation, with their bodies. -/
def writtenMethods (table : NamespaceTable) (space : String) (service : Schema.Service)
    (mode : CallMode) : List WrittenMethod :=
  (implementedMethods mode service.methods).flatMap fun method =>
    let shape := CallShape.ofMethod method mode
    [false, true].map (writtenMethod table shape method
      (body shape space service.name method))

theorem map_declaration_writtenMethods (table : NamespaceTable) (space : String)
    (service : Schema.Service) (mode : CallMode) :
    (writtenMethods table space service mode).map WrittenMethod.declaration =
      declarations table mode (implementedMethods mode service.methods) := by
  simp [writtenMethods, declarations, writtenMethod, List.map_flatMap]

/-- The lines of a package declaration. -/
def packageLines (space : String) : List String :=
  if space.isEmpty then [] else ["package " ++ space ++ ";", ""]

/-- The line of a declaration in a contract. -/
def declarationLine (declaration : String) : String := "    " ++ declaration ++ ";"

/-- The line before the declarations of a contract. -/
def interfaceLine (name : String) : String := "public interface " ++ name ++ " \x7b"

/-- The lines of a contract. -/
def contractLines (table : NamespaceTable) (space : String) (service : Schema.Service)
    (mode : CallMode) : List String :=
  packageLines space ++ ([interfaceLine (contractName service.name mode)] ++
    ((declarations table mode service.methods).flatMap (["", declarationLine ·]) ++
      ["\x7d"]))

/-- The lines of a default implementation before its methods. -/
def classLines (space service : String) (mode : CallMode) : List String :=
  let name := implementationName service mode
  let stub := stubClass space service mode
  ["public class " ++ name ++ " extends " ++ runtimePackage ++ ".AbstractGrpcService<" ++
      stub ++ "> implements " ++ Identifier.qualify space (contractName service mode) ++ " \x7b",
    "",
    "    public " ++ name ++ "(" ++ runtimePackage ++ ".RetryPolicy retryConfiguration, " ++
      runtimePackage ++ ".StubStorage<" ++ stub ++ "> serviceConfiguration) \x7b",
    "        super(retryConfiguration, serviceConfiguration);",
    "    \x7d"]

/-- The lines of a default implementation after its methods. -/
def stubLines (space service : String) (mode : CallMode) : List String :=
  ["",
    "    @java.lang.Override",
    "    protected " ++ stubClass space service mode ++
      " createStub(io.grpc.Channel channel, io.grpc.CallOptions callOptions) \x7b",
    "        return " ++ transportClass space service ++ "." ++ stubFactory mode ++ "(channel);",
    "    \x7d",
    "\x7d"]

/-- The lines of a default implementation. -/
def implementationLines (table : NamespaceTable) (space : String) (service : Schema.Service)
    (mode : CallMode) : List String :=
  packageLines space ++ (classLines space service.name mode ++
    ((writtenMethods table space service mode).flatMap WrittenMethod.lines ++
      stubLines space service.name mode))

theorem ofLines_packageLines (space : String) :
    Text.ofLines (packageLines space) =
      if space.isEmpty then "" else "package " ++ space ++ ";\n\n" := by
  rw [packageLines]
  split
  · rfl
  · simp [← String.toList_inj]

end ServiceBindings.Java

namespace ServiceBindings.Template

open Json (Value)
open Java (WrittenMethod)

section Elements

variable {outer : List Scope} (plain : ArePlain outer) (loopVariables : List (String × Value))

include plain

theorem renderElements_declaration (method : WrittenMethod) :
    renderElements (plainScope method.data loopVariables) outer declarationElements =
      .ok (Text.ofLines ["", Java.declarationLine method.declaration]) := by
  have found : Dictionary.findIn? "declaration"
      [("declaration", Value.text method.declaration),
        ("body", .array (method.statements.map .text))] = some (.text method.declaration) := by
    simp [Dictionary.findIn?]
  refine Eq.trans (renderElements_cons rfl (renderElements_cons
    (renderElement_field plain _ found) (renderElements_cons rfl rfl))) ?_
  simp [Java.declarationLine, ← String.toList_inj]

theorem renderElements_method (method : WrittenMethod) :
    renderElements (plainScope method.data loopVariables) outer methodElements =
      .ok (Text.ofLines method.lines) := by
  have declarationFound : Dictionary.findIn? "declaration"
      [("declaration", Value.text method.declaration),
        ("body", .array (method.statements.map .text))] = some (.text method.declaration) := by
    simp [Dictionary.findIn?]
  have bodyFound : Dictionary.findIn? "body"
      [("declaration", Value.text method.declaration),
        ("body", .array (method.statements.map .text))] =
          some (.array (method.statements.map .text)) := by
    simp [Dictionary.findIn?]
  have statement : ∀ text ∈ method.statements, ∀ bindings,
      renderElements (plainScope (.text text) bindings)
        (plainScope method.data loopVariables :: outer) statementElements =
          .ok ("        " ++ (text ++ ("\n" ++ ""))) := by
    intro text _ bindings
    exact renderElements_cons rfl
      (renderElements_cons (renderElement_itself text _) (renderElements_cons rfl rfl))
  refine Eq.trans (renderElements_cons rfl (renderElements_cons
    (renderElement_field plain _ declarationFound) (renderElements_cons rfl
      (renderElements_cons (renderElement_loop plain bodyFound statement)
        (renderElements_cons rfl rfl))))) ?_
  simp [WrittenMethod.lines, Text.ofLines, ← String.toList_inj, Function.comp_def,
    List.flatMap_map]

end Elements

end ServiceBindings.Template

namespace ServiceBindings.Java

open Json (Value)
open Template (standardLibrary)

variable (table : NamespaceTable) (space : String) (service : Schema.Service) (mode : CallMode)

/-- The fields of the data of a contract. -/
def contractFields : List (String × Value) :=
  [("namespace", .text space), ("class_name", .text (contractName service.name mode)),
    ("methods", .array ((declaredMethods table service mode).map WrittenMethod.data))]

theorem contractData_eq :
    contractData table space service mode = .object (contractFields table space service mode) := by
  simp [contractData, contractFields, declaredMethods, methodData_eq, List.map_flatMap]

/-- Every contract can be rendered, and its text is the lines of the contract. -/
theorem render_contractTemplate :
    Template.contractTemplate.render (contractData table space service mode) =
      .ok (Text.ofLines (contractLines table space service mode)) := by
  rw [contractData_eq, Template.render, Template.contractTemplate]
  have spaceFound : Dictionary.findIn? "namespace" (contractFields table space service mode) =
      some (.text space) := by
    simp [contractFields, Dictionary.findIn?]
  have nameFound : Dictionary.findIn? "class_name" (contractFields table space service mode) =
      some (.text (contractName service.name mode)) := by
    simp [contractFields, Dictionary.findIn?]
  have methodsFound : Dictionary.findIn? "methods" (contractFields table space service mode) =
      some (.array ((declaredMethods table service mode).map WrittenMethod.data)) := by
    simp [contractFields, Dictionary.findIn?]
  have methods : ∀ method ∈ declaredMethods table service mode, ∀ bindings,
      Template.renderElements (Template.plainScope method.data bindings)
        [Template.plainScope (.object (contractFields table space service mode)) []]
        Template.declarationElements =
          .ok (Text.ofLines ["", declarationLine method.declaration]) := by
    intro method _ bindings
    exact Template.renderElements_declaration (by simp) bindings method
  have plain : Template.ArePlain [] := Template.arePlain_nil
  refine Eq.trans
    (Template.renderElements_cons (Template.renderElement_package plain spaceFound)
    (Template.renderElements_cons rfl
    (Template.renderElements_cons (Template.renderElement_field plain _ nameFound)
    (Template.renderElements_cons rfl
    (Template.renderElements_cons (Template.renderElement_loop plain methodsFound methods)
    (Template.renderElements_cons rfl rfl)))))) ?_
  unfold contractLines interfaceLine
  rw [← map_declaration_declaredMethods, List.flatMap_map, ← ofLines_packageLines]
  simp [← String.toList_inj]

/-- The fields of the data of a default implementation. -/
def implementationFields : List (String × Value) :=
  [("namespace", .text space),
    ("class_name", .text (implementationName service.name mode)),
    ("base_class", .text (runtimePackage ++ ".AbstractGrpcService<" ++
      stubClass space service.name mode ++ ">")),
    ("contract", .text (Identifier.qualify space (contractName service.name mode))),
    ("retry_policy", .text (runtimePackage ++ ".RetryPolicy")),
    ("stub_storage", .text (runtimePackage ++ ".StubStorage<" ++
      stubClass space service.name mode ++ ">")),
    ("stub_class", .text (stubClass space service.name mode)),
    ("grpc_class", .text (transportClass space service.name)),
    ("stub_factory", .text (stubFactory mode)),
    ("methods", .array ((writtenMethods table space service mode).map WrittenMethod.data))]

theorem implementationData_eq :
    implementationData table space service mode =
      .object (implementationFields table space service mode) := by
  simp [implementationData, implementationFields, writtenMethods, implementedMethods,
    methodData_eq, List.map_flatMap]

/-- Every default implementation can be rendered, and its text is the lines of the default
implementation. -/
theorem render_implementationTemplate :
    Template.implementationTemplate.render (implementationData table space service mode) =
      .ok (Text.ofLines (implementationLines table space service mode)) := by
  rw [implementationData_eq, Template.render, Template.implementationTemplate]
  have spaceFound : Dictionary.findIn? "namespace"
      (implementationFields table space service mode) = some (.text space) := by
    simp [implementationFields, Dictionary.findIn?]
  have nameFound : Dictionary.findIn? "class_name"
      (implementationFields table space service mode) =
        some (.text (implementationName service.name mode)) := by
    simp [implementationFields, Dictionary.findIn?]
  have baseFound : Dictionary.findIn? "base_class"
      (implementationFields table space service mode) =
        some (.text (runtimePackage ++ ".AbstractGrpcService<" ++
          stubClass space service.name mode ++ ">")) := by
    simp [implementationFields, Dictionary.findIn?]
  have contractFound : Dictionary.findIn? "contract"
      (implementationFields table space service mode) =
        some (.text (Identifier.qualify space (contractName service.name mode))) := by
    simp [implementationFields, Dictionary.findIn?]
  have policyFound : Dictionary.findIn? "retry_policy"
      (implementationFields table space service mode) =
        some (.text (runtimePackage ++ ".RetryPolicy")) := by
    simp [implementationFields, Dictionary.findIn?]
  have storageFound : Dictionary.findIn? "stub_storage"
      (implementationFields table space service mode) =
        some (.text (runtimePackage ++ ".StubStorage<" ++
          stubClass space service.name mode ++ ">")) := by
    simp [implementationFields, Dictionary.findIn?]
  have stubFound : Dictionary.findIn? "stub_class"
      (implementationFields table space service mode) =
        some (.text (stubClass space service.name mode)) := by
    simp [implementationFields, Dictionary.findIn?]
  have transportFound : Dictionary.findIn? "grpc_class"
      (implementationFields table space service mode) =
        some (.text (transportClass space service.name)) := by
    simp [implementationFields, Dictionary.findIn?]
  have factoryFound : Dictionary.findIn? "stub_factory"
      (implementationFields table space service mode) = some (.text (stubFactory mode)) := by
    simp [implementationFields, Dictionary.findIn?]
  have methodsFound : Dictionary.findIn? "methods"
      (implementationFields table space service mode) =
        some (.array ((writtenMethods table space service mode).map WrittenMethod.data)) := by
    simp [implementationFields, Dictionary.findIn?]
  have methods : ∀ method ∈ writtenMethods table space service mode, ∀ bindings,
      Template.renderElements (Template.plainScope method.data bindings)
        [Template.plainScope (.object (implementationFields table space service mode)) []]
        Template.methodElements = .ok (Text.ofLines method.lines) := by
    intro method _ bindings
    exact Template.renderElements_method (by simp) bindings method
  have plain : Template.ArePlain [] := Template.arePlain_nil
  refine Eq.trans
    (Template.renderElements_cons (Template.renderElement_package plain spaceFound)
    (Template.renderElements_cons rfl
    (Template.renderElements_cons (Template.renderElement_field plain _ nameFound)
    (Template.renderElements_cons rfl
    (Template.renderElements_cons (Template.renderElement_field plain _ baseFound)
    (Template.renderElements_cons rfl
    (Template.renderElements_cons (Template.renderElement_field plain _ contractFound)
    (Template.renderElements_cons rfl
    (Template.renderElements_cons (Template.renderElement_field plain _ nameFound)
    (Template.renderElements_cons rfl
    (Template.renderElements_cons (Template.renderElement_field plain _ policyFound)
    (Template.renderElements_cons rfl
    (Template.renderElements_cons (Template.renderElement_field plain _ storageFound)
    (Template.renderElements_cons rfl
    (Template.renderElements_cons (Template.renderElement_loop plain methodsFound methods)
    (Template.renderElements_cons rfl
    (Template.renderElements_cons (Template.renderElement_field plain _ stubFound)
    (Template.renderElements_cons rfl
    (Template.renderElements_cons (Template.renderElement_field plain _ transportFound)
    (Template.renderElements_cons rfl
    (Template.renderElements_cons (Template.renderElement_field plain _ factoryFound)
    (Template.renderElements_cons rfl rfl)))))))))))))))))))))) ?_
  rw [implementationLines, ← ofLines_packageLines]
  simp [← String.toList_inj, classLines, stubLines]

/-- The file of a contract. -/
def contractFile (root : Option String) : GeneratedFile :=
  ⟨sourcePath root space (contractName service.name mode),
    Text.ofLines (contractLines table space service mode)⟩

/-- The file of a default implementation. -/
def implementationFile (root : Option String) : GeneratedFile :=
  ⟨sourcePath root space (implementationName service.name mode),
    Text.ofLines (implementationLines table space service mode)⟩

@[simp] theorem path_contractFile (root : Option String) :
    (contractFile table space service mode root).path =
      sourcePath root space (contractName service.name mode) := by
  rw [contractFile]

@[simp] theorem content_contractFile (root : Option String) :
    (contractFile table space service mode root).content =
      Text.ofLines (contractLines table space service mode) := by
  rw [contractFile]

@[simp] theorem content_implementationFile (root : Option String) :
    (implementationFile table space service mode root).content =
      Text.ofLines (implementationLines table space service mode) := by
  rw [implementationFile]

@[simp] theorem path_implementationFile (root : Option String) :
    (implementationFile table space service mode root).path =
      sourcePath root space (implementationName service.name mode) := by
  rw [implementationFile]

/-- Contracts are generated whatever a service declares. -/
theorem contract_standard (root : Option String) :
    contract standardLibrary root table space service mode =
      .ok (contractFile table space service mode root) := by
  rw [contract, Template.Library.render_contract, render_contractTemplate]
  rfl

/-- Default implementations are generated whatever a service declares. -/
theorem implementation_standard (root : Option String) :
    implementation standardLibrary root table space service mode =
      .ok (implementationFile table space service mode root) := by
  rw [implementation, Template.Library.render_implementation, render_implementationTemplate]
  rfl

end ServiceBindings.Java
