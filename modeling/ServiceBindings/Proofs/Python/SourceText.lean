import ServiceBindings.Python
import ServiceBindings.Proofs.Template.Rendering
import ServiceBindings.Proofs.Text.Lines

/-!
# The text of Python files

Bindings line by line.  Whatever a service declares, the standard template can be filled with
its data, and the generated text consists of exactly these lines.
-/

namespace ServiceBindings

open Json (Value)

namespace Python

/-- The lines of a binding before its functions. -/
def classLines (fileName service : String) : List String :=
  ["from . import " ++ Text.replaceChar '-' '_' (Path.directoryAndStem fileName).2 ++
      "_pb2_grpc as importStub",
    "", "",
    "class " ++ service ++ "Service(object):",
    "",
    "    def __init__(self, router):",
    "        self.connector = router.get_connection(" ++ service ++ "Service, importStub." ++
      service ++ "Stub)"]

/-- The lines of a function. -/
def functionLines (method : String) : List String :=
  ["",
    "    def " ++ method ++ "(self, request, timeout=None, properties=None):",
    "        return self.connector.create_request('" ++ method ++
      "', request, timeout, properties)"]

/-- The lines of a binding. -/
def bindingLines (fileName : String) (service : Schema.Service) : List String :=
  classLines fileName service.name ++
    (service.methods.map (·.name)).flatMap functionLines

end Python

namespace Template

theorem renderElements_function (name : String) (loopVariables : List (String × Value))
    (outer : List Scope) :
    renderElements (plainScope (.text name) loopVariables) outer functionElements =
      .ok (Text.ofLines (Python.functionLines name)) := by
  refine Eq.trans (renderElements_cons rfl (renderElements_cons
    (renderElement_itself name _) (renderElements_cons rfl (renderElements_cons
      (renderElement_itself name _) (renderElements_cons rfl rfl))))) ?_
  simp [Python.functionLines, ← String.toList_inj]

end Template

namespace Python

variable (fileName : String) (service : Schema.Service)

/-- The fields of the data of a binding. -/
def bindingFields : List (String × Value) :=
  [("module", .text (Text.replaceChar '-' '_' (Path.directoryAndStem fileName).2)),
    ("class_name", .text (service.name ++ "Service")),
    ("stub_name", .text (service.name ++ "Stub")),
    ("methods", .array ((service.methods.map (·.name)).map .text))]

theorem bindingData_eq :
    bindingData fileName service = .object (bindingFields fileName service) := by
  simp [bindingData, bindingFields, List.map_map, Function.comp_def]

/-- Every binding can be rendered, and its text is the lines of the binding. -/
theorem render_bindingTemplate :
    Template.bindingTemplate.render (bindingData fileName service) =
      .ok (Text.ofLines (bindingLines fileName service)) := by
  rw [bindingData_eq, Template.render, Template.bindingTemplate]
  have moduleFound : Dictionary.findIn? "module" (bindingFields fileName service) =
      some (.text (Text.replaceChar '-' '_' (Path.directoryAndStem fileName).2)) := by
    simp [bindingFields, Dictionary.findIn?]
  have nameFound : Dictionary.findIn? "class_name" (bindingFields fileName service) =
      some (.text (service.name ++ "Service")) := by
    simp [bindingFields, Dictionary.findIn?]
  have stubFound : Dictionary.findIn? "stub_name" (bindingFields fileName service) =
      some (.text (service.name ++ "Stub")) := by
    simp [bindingFields, Dictionary.findIn?]
  have methodsFound : Dictionary.findIn? "methods" (bindingFields fileName service) =
      some (.array ((service.methods.map (·.name)).map .text)) := by
    simp [bindingFields, Dictionary.findIn?]
  have functions : ∀ name ∈ service.methods.map (·.name), ∀ bindings,
      Template.renderElements (Template.plainScope (.text name) bindings)
        [Template.plainScope (.object (bindingFields fileName service)) []]
        Template.functionElements = .ok (Text.ofLines (functionLines name)) := by
    intro name _ bindings
    exact Template.renderElements_function name bindings _
  have plain : Template.ArePlain [] := Template.arePlain_nil
  refine Eq.trans
    (Template.renderElements_cons rfl
    (Template.renderElements_cons (Template.renderElement_field plain _ moduleFound)
    (Template.renderElements_cons rfl
    (Template.renderElements_cons (Template.renderElement_field plain _ nameFound)
    (Template.renderElements_cons rfl
    (Template.renderElements_cons (Template.renderElement_field plain _ nameFound)
    (Template.renderElements_cons rfl
    (Template.renderElements_cons (Template.renderElement_field plain _ stubFound)
    (Template.renderElements_cons rfl
    (Template.renderElements_cons (Template.renderElement_loop plain methodsFound functions)
    (Template.renderElements_cons rfl rfl))))))))))) ?_
  rw [bindingLines]
  simp [← String.toList_inj, classLines]

/-- The file of a binding. -/
def bindingFile (root : Option String) : GeneratedFile :=
  ⟨Path.join [root.getD "", (Path.directoryAndStem fileName).1, moduleFileName service.name],
    Text.ofLines (bindingLines fileName service)⟩

/-- Bindings are generated whatever a service declares. -/
theorem binding_standard (root : Option String) :
    binding Template.standardLibrary root fileName service =
      .ok (bindingFile fileName service root) := by
  rw [binding, Template.Library.render_binding, render_bindingTemplate]
  rfl

end Python

end ServiceBindings
