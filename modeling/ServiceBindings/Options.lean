import ServiceBindings.Text.Segments

/-!
# Generator options

Options arrive as `key=value` fragments joined by commas.  Fragments that assign nothing are
passed over, a later assignment of a key replaces an earlier one, and a switch that is given
anything but `true` or `false` returns to its default.
-/

namespace ServiceBindings

/-- What to generate and below which directories. -/
structure Options where
  /-- Whether any Java is generated. -/
  java : Bool
  contracts : Bool
  implementations : Bool
  registrations : Bool
  python : Bool
  contractRoot : Option String
  implementationRoot : Option String
  registrationRoot : Option String
  pythonRoot : Option String
deriving DecidableEq, Repr

namespace Options

/-- Everything is generated, below no particular directory. -/
def default : Options where
  java := true
  contracts := true
  implementations := true
  registrations := true
  python := true
  contractRoot := none
  implementationRoot := none
  registrationRoot := none
  pythonRoot := none

/-- A value given to a key. -/
structure Assignment where
  key : String
  value : String
deriving DecidableEq, Repr

/-- The assignment that a fragment makes, if it has an equals sign and a key before the
first one. -/
def Assignment.ofFragment? (fragment : String) : Option Assignment :=
  match Text.cutFirst? '=' fragment with
  | none => none
  | some (key, value) =>
    let key := Text.trim key
    if key.isEmpty then none else some ⟨key, Text.trim value⟩

/-- The assignments of a comma-joined list of fragments. -/
def assignments (raw : String) : List Assignment :=
  (Text.segments ',' raw).filterMap fun fragment => Assignment.ofFragment? (Text.trim fragment)

/-- The position of a switch: `true` and `false` in any mixture of cases, and otherwise the
default. -/
def switch (fallback : Bool) (value : String) : Bool :=
  let word := value.toList.map Char.toLower
  if word = "true".toList then true else if word = "false".toList then false else fallback

/-- The options after an assignment; an unknown key changes nothing. -/
def assign (options : Options) (assignment : Assignment) : Options :=
  let value := assignment.value
  match assignment.key with
  | "enableJava" => { options with java := switch default.java value }
  | "enableJavaInterfaces" => { options with contracts := switch default.contracts value }
  | "enableJavaDefaultImpl" =>
    { options with implementations := switch default.implementations value }
  | "enableJavaMetaInf" => { options with registrations := switch default.registrations value }
  | "enablePython" => { options with python := switch default.python value }
  | "javaInterfacesPath" => { options with contractRoot := Text.nonempty? value }
  | "javaInterfacesImplPath" => { options with implementationRoot := Text.nonempty? value }
  | "javaMetaInfPath" => { options with registrationRoot := Text.nonempty? value }
  | "pythonPath" => { options with pythonRoot := Text.nonempty? value }
  | _ => options

/-- The options that assignments make of the defaults. -/
def ofAssignments (assignments : List Assignment) : Options :=
  assignments.foldl assign default

/-- The options of a comma-joined list of fragments. -/
def parse (raw : String) : Options :=
  ofAssignments (assignments raw)

/-- An argument without the two dashes that may introduce it. -/
def withoutDashes (argument : String) : String :=
  match argument.toList with
  | '-' :: '-' :: rest => String.ofList rest
  | _ => argument

/-- The options of command line arguments, each of which may be a comma-joined list. -/
def ofArguments (arguments : List String) : Options :=
  ofAssignments (arguments.flatMap fun argument => assignments (withoutDashes argument))

/-- Whether contracts are generated. -/
def generatesContracts (options : Options) : Bool :=
  options.java && options.contracts

/-- Whether default implementations are generated. -/
def generatesImplementations (options : Options) : Bool :=
  options.java && options.implementations

/-- Whether registrations are generated. -/
def generatesRegistrations (options : Options) : Bool :=
  options.java && options.registrations

end Options

end ServiceBindings
