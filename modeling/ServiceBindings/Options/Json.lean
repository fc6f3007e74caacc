import ServiceBindings.Json.Reading
import ServiceBindings.Options

/-!
# Generator options as JSON
-/

namespace ServiceBindings.Options

open Json (Reading Record RecordShape Value)

/-- The stored form of options. -/
def toJson (options : Options) : Value :=
  .object
    [("enable_java", .bool options.java),
      ("enable_java_interfaces", .bool options.contracts),
      ("enable_java_default_impl", .bool options.implementations),
      ("enable_java_meta_inf", .bool options.registrations),
      ("enable_python", .bool options.python),
      ("java_interfaces_path", .ofText? options.contractRoot),
      ("java_interfaces_impl_path", .ofText? options.implementationRoot),
      ("java_meta_inf_path", .ofText? options.registrationRoot),
      ("python_path", .ofText? options.pythonRoot)]

/-- The names of the stored switches. -/
def switchNames : List String :=
  ["enable_java", "enable_java_interfaces", "enable_java_default_impl", "enable_java_meta_inf",
    "enable_python"]

/-- The names of the stored directories. -/
def rootNames : List String :=
  ["java_interfaces_path", "java_interfaces_impl_path", "java_meta_inf_path", "python_path"]

/-- The shape of stored options. -/
def shape : RecordShape := ⟨"struct GeneratorOptions", switchNames ++ rootNames⟩

/-- Reads stored options. -/
def ofJson (value : Value) : Reading Options := do
  let record ← Record.ofValue shape value
  let switch := fun name => record.read? name Value.asSwitch
  let root := fun name => record.read? name Value.asOptionalText
  record.check
    (switchNames.map (fun name => (name, Record.fault? (switch name))) ++
      rootNames.map fun name => (name, Record.fault? (root name)))
  let java ← record.required "enable_java" (switch "enable_java")
  let contracts ← record.required "enable_java_interfaces" (switch "enable_java_interfaces")
  let implementations ←
    record.required "enable_java_default_impl" (switch "enable_java_default_impl")
  let registrations ← record.required "enable_java_meta_inf" (switch "enable_java_meta_inf")
  let python ← record.required "enable_python" (switch "enable_python")
  let contractRoot ← record.optional "java_interfaces_path" (root "java_interfaces_path")
  let implementationRoot ←
    record.optional "java_interfaces_impl_path" (root "java_interfaces_impl_path")
  let registrationRoot ← record.optional "java_meta_inf_path" (root "java_meta_inf_path")
  let pythonRoot ← record.optional "python_path" (root "python_path")
  record.checkEnd
  pure ⟨java, contracts, implementations, registrations, python, contractRoot,
    implementationRoot, registrationRoot, pythonRoot⟩

end ServiceBindings.Options
