import ServiceBindings.Java.Artifact
import ServiceBindings.Options
import ServiceBindings.Python
import ServiceBindings.Schema.Validation

/-!
# Generation

The code of selected schema files.  All schema files take part in the namespace table, so
that a method may refer to the messages of any of them; code is generated file by file, and
for each file generator by generator.
-/

namespace ServiceBindings

/-- What a generator generates. -/
inductive GeneratorKind where
  | contract
  | implementation
  | binding
  | registration
deriving DecidableEq, Repr

namespace GeneratorKind

/-- The name of a kind of generator. -/
def name : GeneratorKind → String
  | contract => "java-contract"
  | implementation => "java-default-impl"
  | binding => "python-service"
  | registration => "java-registry"

/-- All kinds in the order in which they run. -/
def all : List GeneratorKind := [contract, implementation, binding, registration]

/-- The kind with a name. -/
def ofName? (word : String) : Option GeneratorKind :=
  all.find? (·.name == word)

end GeneratorKind

/-- A generator that places its files below a root directory, if it is given one. -/
structure Generator where
  kind : GeneratorKind
  root : Option String
deriving DecidableEq, Repr

namespace Generator

/-- The files for a service in a file, in both call modes where modes matter. -/
def generateService (generator : Generator) (library : Template.Library)
    (table : NamespaceTable) (file : Schema.File) (service : Schema.Service) :
    Except GenerationError GeneratedCode :=
  match generator.kind with
  | .contract => CallMode.all.mapM fun mode =>
      Java.contract library generator.root table file.space service mode
  | .implementation => CallMode.all.mapM fun mode =>
      Java.implementation library generator.root table file.space service mode
  | .binding => (Python.binding library generator.root file.name service).map ([·])
  | .registration => .ok (CallMode.all.map fun mode =>
      Java.registration generator.root file.space service mode)

/-- The files for all services of a file in order. -/
def generate (generator : Generator) (library : Template.Library) (table : NamespaceTable)
    (file : Schema.File) : Except GenerationError GeneratedCode :=
  (file.services.mapM (generator.generateService library table file)).map List.flatten

/-- The generators that options ask for, in the order in which they run. -/
def ofOptions (options : Options) : List Generator :=
  (if options.generatesContracts then [⟨.contract, options.contractRoot⟩] else []) ++
    ((if options.generatesImplementations then
        [⟨.implementation, options.implementationRoot⟩] else []) ++
      ((if options.python then [⟨.binding, options.pythonRoot⟩] else []) ++
        (if options.generatesRegistrations then
          [⟨.registration, options.registrationRoot⟩] else [])))

end Generator

namespace Generation

open Schema (File)

/-- Accepts schema files of which each is well-formed and none has the name of an earlier
one; `earlier` are the names before the first. -/
def checkFiles (earlier : List String) : List File → Except GenerationError Unit
  | [] => .ok ()
  | file :: rest =>
    match file.validate with
    | .error error => .error error
    | .ok () =>
      if earlier.contains file.name then
        .error (.malformedSchema file.name "file supplied more than once")
      else checkFiles (file.name :: earlier) rest

/-- The file with a name. -/
def select (files : List File) (name : String) : Except GenerationError File :=
  match files.find? (·.name == name) with
  | some file => .ok file
  | none => .error (.unknownFile name)

/-- The code of a file from all generators. -/
def generateFile (generators : List Generator) (library : Template.Library)
    (table : NamespaceTable) (file : File) : Except GenerationError GeneratedCode :=
  (generators.mapM fun (generator : Generator) => generator.generate library table file).map
    List.flatten

/-- The code of the selected files, or the first reason why there is none. -/
def run (generators : List Generator) (files : List File) (selection : List String) :
    Except GenerationError GeneratedCode := do
  checkFiles [] files
  let selected ← selection.mapM (select files)
  let library ← Template.Library.standard
  let codes ← selected.mapM (generateFile generators library (NamespaceTable.ofFiles files))
  pure codes.flatten

/-- The code that options ask for. -/
def runOptions (options : Options) (files : List File) (selection : List String) :
    Except GenerationError GeneratedCode :=
  run (Generator.ofOptions options) files selection

end Generation

end ServiceBindings
