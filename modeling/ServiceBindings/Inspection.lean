import ServiceBindings.Java.Name
import ServiceBindings.Json.Value

/-!
# Inspection

A report on what would be generated for every service: the names of its classes, and the
shape of every method in either call mode.
-/

namespace ServiceBindings

open Json (Value)

/-- The report on a method. -/
structure MethodReport where
  name : String
  inputType : String
  outputType : String
  syncShape : CallShape
  asyncShape : CallShape
  /-- Whether the blocking implementation provides the method. -/
  isBlockingImplemented : Bool
deriving DecidableEq, Repr

namespace MethodReport

/-- The report on a method. -/
def ofMethod (method : Schema.Method) : MethodReport where
  name := method.name
  inputType := method.inputType.fullName
  outputType := method.outputType.fullName
  syncShape := CallShape.ofMethod method .sync
  asyncShape := CallShape.ofMethod method .async
  isBlockingImplemented := (CallShape.ofMethod method .sync).isImplemented

/-- The report as it is printed. -/
def toJson (report : MethodReport) : Value :=
  .object
    [("name", .text report.name),
      ("input_type", .text report.inputType),
      ("output_type", .text report.outputType),
      ("sync_shape", .text report.syncShape.name),
      ("async_shape", .text report.asyncShape.name),
      ("blocking_default_impl", .bool report.isBlockingImplemented)]

end MethodReport

/-- The report on a service. -/
structure ServiceReport where
  file : String
  name : String
  /-- The names of the contracts, blocking first. -/
  contracts : List String
  /-- The names of the default implementations, blocking first. -/
  implementations : List String
  methods : List MethodReport
deriving DecidableEq, Repr

namespace ServiceReport

/-- The report on a service of a file. -/
def ofService (file : Schema.File) (service : Schema.Service) : ServiceReport where
  file := file.name
  name := service.name
  contracts := CallMode.all.map (Java.contractName service.name)
  implementations := CallMode.all.map (Java.implementationName service.name)
  methods := service.methods.map MethodReport.ofMethod

/-- The report as it is printed. -/
def toJson (report : ServiceReport) : Value :=
  .object
    [("file", .text report.file),
      ("name", .text report.name),
      ("contracts", .array (report.contracts.map .text)),
      ("default_impls", .array (report.implementations.map .text)),
      ("methods", .array (report.methods.map MethodReport.toJson))]

end ServiceReport

/-- The reports on all services of schema files in order. -/
def inspect (files : List Schema.File) : List ServiceReport :=
  files.flatMap fun file => file.services.map (ServiceReport.ofService file)

/-- Reports as they are printed. -/
def reportsToJson (reports : List ServiceReport) : Value :=
  .array (reports.map ServiceReport.toJson)

end ServiceBindings
