import ServiceBindings.GeneratedCode
import ServiceBindings.Identifier
import ServiceBindings.Path
import ServiceBindings.Schema.Basic
import ServiceBindings.Template.Library

/-!
# Python files of a service

A service has one binding, whose functions all have the same form: streaming makes no
difference to them.
-/

namespace ServiceBindings.Python

open Json (Value)

/-- The file name of the binding of a service. -/
def moduleFileName (service : String) : String :=
  Identifier.snakeCase service ++ "_service.py"

/-- The data of the binding of a service in a file. -/
def bindingData (fileName : String) (service : Schema.Service) : Value :=
  .object
    [("module", .text (Text.replaceChar '-' '_' (Path.directoryAndStem fileName).2)),
      ("class_name", .text (service.name ++ "Service")),
      ("stub_name", .text (service.name ++ "Stub")),
      ("methods", .array (service.methods.map fun method => .text method.name))]

/-- The binding of a service in a file. -/
def binding (library : Template.Library) (root : Option String) (fileName : String)
    (service : Schema.Service) : Except GenerationError GeneratedFile := do
  let content ← library.render Template.bindingName (bindingData fileName service)
  pure ⟨Path.join [root.getD "", (Path.directoryAndStem fileName).1,
    moduleFileName service.name], content⟩

end ServiceBindings.Python
