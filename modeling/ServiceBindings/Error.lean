/-!
# Generation errors

Why a generation stops, and how it is told.
-/

namespace ServiceBindings

/-- Why a generation yields no code. -/
inductive GenerationError where
  /-- A schema file, or what should have held one, is unusable. -/
  | malformedSchema (file reason : String)
  /-- A file to generate for is not among the schema files. -/
  | unknownFile (file : String)
  /-- A template is missing or cannot be filled. -/
  | template (template message : String)
  /-- The configuration is unusable. -/
  | configuration (message : String)
  /-- An argument is not one of the words that are understood. -/
  | invalidArgument (message : String)
deriving DecidableEq, Repr

namespace GenerationError

/-- The text of an error. -/
def message : GenerationError → String
  | malformedSchema file reason => "Malformed schema in '" ++ file ++ "': " ++ reason
  | unknownFile file => "File to generate is not among the input schema files: " ++ file
  | template name message => "Template '" ++ name ++ "' failed: " ++ message
  | configuration message => "Configuration error: " ++ message
  | invalidArgument message => "Invalid argument: " ++ message

/-- Whether the schema files are at fault. -/
def isSchemaError : GenerationError → Bool
  | malformedSchema _ _ | unknownFile _ => true
  | _ => false

/-- Whether a template is at fault. -/
def isTemplateError : GenerationError → Bool
  | template _ _ => true
  | _ => false

/-- Whether the configuration or an argument is at fault. -/
def isConfigurationError : GenerationError → Bool
  | configuration _ | invalidArgument _ => true
  | _ => false

end GenerationError

end ServiceBindings
