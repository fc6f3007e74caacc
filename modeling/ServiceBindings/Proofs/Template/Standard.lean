import ServiceBindings.Template.Library

/-!
# The standard templates

The elements that the texts of the standard templates consist of.  All standard templates
are well-formed, so the standard library always exists.
-/

namespace ServiceBindings.Template

/-- A reference to a field of the value where a tag stands. -/
def field (name : String) : Parameter := .reference (.path (.scope 0) [name] name)

/-- A reference to the value where a tag stands. -/
def itself : Parameter := .reference (.path (.scope 0) [] "this")

/-- A loop over the items of a field. -/
def loopOver (name : String) : Call := ⟨.loop, [field name], []⟩

/-- The elements of a package declaration, which is left out for the empty package. -/
def packageElement : Element :=
  .block ⟨.choice true, [field "namespace"], []⟩ [] ⟨1, 1⟩
    [.text "package ", .value (field "namespace") ⟨2, 9⟩, .text ";\n\n"] none

/-- The elements of one declaration in a contract. -/
def declarationElements : List Element :=
  [.text "\n    ", .value (field "declaration") ⟨8, 5⟩, .text ";\n"]

/-- The template of a contract. -/
def contractTemplate : Template :=
  [packageElement, .text "public interface ", .value (field "class_name") ⟨5, 18⟩,
    .text " \x7b\n", .block (loopOver "methods") [] ⟨6, 1⟩ declarationElements none,
    .text "\x7d\n"]

/-- The elements of one statement in a method of a default implementation. -/
def statementElements : List Element :=
  [.text "        ", .value itself ⟨15, 9⟩, .text "\n"]

/-- The elements of one method in a default implementation. -/
def methodElements : List Element :=
  [.text "\n    @java.lang.Override\n    public ", .value (field "declaration") ⟨13, 12⟩,
    .text " \x7b\n", .block (loopOver "body") [] ⟨14, 1⟩ statementElements none,
    .text "    \x7d\n"]

/-- The template of a default implementation. -/
def implementationTemplate : Template :=
  [packageElement, .text "public class ", .value (field "class_name") ⟨5, 14⟩,
    .text " extends ", .value (field "base_class") ⟨5, 37⟩,
    .text " implements ", .value (field "contract") ⟨5, 63⟩,
    .text " \x7b\n\n    public ", .value (field "class_name") ⟨7, 12⟩,
    .text "(", .value (field "retry_policy") ⟨7, 27⟩,
    .text " retryConfiguration, ", .value (field "stub_storage") ⟨7, 64⟩,
    .text (" serviceConfiguration) \x7b\n        super(retryConfiguration, " ++
      "serviceConfiguration);\n    \x7d\n"),
    .block (loopOver "methods") [] ⟨10, 1⟩ methodElements none,
    .text "\n    @java.lang.Override\n    protected ", .value (field "stub_class") ⟨21, 15⟩,
    .text (" createStub(io.grpc.Channel channel, io.grpc.CallOptions callOptions) \x7b\n" ++
      "        return "), .value (field "grpc_class") ⟨22, 16⟩,
    .text ".", .value (field "stub_factory") ⟨22, 31⟩,
    .text "(channel);\n    \x7d\n\x7d\n"]

/-- The elements of one function in a Python binding. -/
def functionElements : List Element :=
  [.text "\n    def ", .value itself ⟨10, 9⟩,
    .text ("(self, request, timeout=None, properties=None):\n" ++
      "        return self.connector.create_request('"), .value itself ⟨11, 47⟩,
    .text "', request, timeout, properties)\n"]

/-- The template of a Python binding. -/
def bindingTemplate : Template :=
  [.text "from . import ", .value (field "module") ⟨1, 15⟩,
    .text "_pb2_grpc as importStub\n\n\nclass ", .value (field "class_name") ⟨4, 7⟩,
    .text ("(object):\n\n    def __init__(self, router):\n" ++
      "        self.connector = router.get_connection("), .value (field "class_name") ⟨7, 48⟩,
    .text ", importStub.", .value (field "stub_name") ⟨7, 75⟩, .text ")\n",
    .block (loopOver "methods") [] ⟨8, 1⟩ functionElements none, .text ""]

section Parsing

set_option maxRecDepth 100000

theorem ofCharacters?_contractText :
    Template.ofCharacters? contractText = some contractTemplate := by rfl

theorem ofCharacters?_implementationText :
    Template.ofCharacters? implementationText = some implementationTemplate := by rfl

theorem ofCharacters?_bindingText :
    Template.ofCharacters? bindingText = some bindingTemplate := by rfl

end Parsing

/-- The library of the standard templates. -/
def standardLibrary : Library :=
  ((Dictionary.empty.insert contractName contractTemplate).insert implementationName
    implementationTemplate).insert bindingName bindingTemplate

/-- The standard library exists. -/
theorem standard_eq : Library.standard = .ok standardLibrary := by
  rw [Library.standard, ofCharacters?_contractText, ofCharacters?_implementationText,
    ofCharacters?_bindingText]
  rfl

namespace Library

theorem render_contract (data : Json.Value) :
    standardLibrary.render contractName data =
      (contractTemplate.render data).mapError (failureError contractName) := rfl

theorem render_implementation (data : Json.Value) :
    standardLibrary.render implementationName data =
      (implementationTemplate.render data).mapError (failureError implementationName) := rfl

theorem render_binding (data : Json.Value) :
    standardLibrary.render bindingName data =
      (bindingTemplate.render data).mapError (failureError bindingName) := rfl

end Library

end ServiceBindings.Template
