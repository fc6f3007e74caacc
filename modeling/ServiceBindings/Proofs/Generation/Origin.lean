import ServiceBindings.Proofs.Generation.Rendered

/-!
# Where generated files come from

Every generated file is one product for one service of one selected schema file.  A run can be
carried out product by product, so that each file comes with its origin, and leaving the
origins away gives the run of the generators.
-/

namespace ServiceBindings

open Schema (File Service)
open Template (standardLibrary)

/-- A file to generate for a service. -/
inductive Product where
  | contract (mode : CallMode)
  | implementation (mode : CallMode)
  | binding
  | registration (mode : CallMode)
deriving DecidableEq, Repr

/-- The kind of generator that generates a product. -/
def Product.kind : Product → GeneratorKind
  | contract _ => .contract
  | implementation _ => .implementation
  | binding => .binding
  | registration _ => .registration

/-- The products of a kind of generator for each service, in order. -/
def GeneratorKind.products : GeneratorKind → List Product
  | contract => [.contract .sync, .contract .async]
  | implementation => [.implementation .sync, .implementation .async]
  | binding => [.binding]
  | registration => [.registration .sync, .registration .async]

theorem GeneratorKind.kind_of_mem_products {kind : GeneratorKind} {product : Product}
    (member : product ∈ kind.products) : product.kind = kind := by
  cases kind with
  | contract =>
      simp only [products, List.mem_cons, List.not_mem_nil, or_false] at member
      rcases member with rfl | rfl <;> rfl
  | implementation =>
      simp only [products, List.mem_cons, List.not_mem_nil, or_false] at member
      rcases member with rfl | rfl <;> rfl
  | binding =>
      rw [List.mem_singleton.mp member]
      rfl
  | registration =>
      simp only [products, List.mem_cons, List.not_mem_nil, or_false] at member
      rcases member with rfl | rfl <;> rfl

/-- What a generated file is generated for. -/
structure Origin where
  file : File
  service : Service
  product : Product
deriving Repr

namespace Origin

variable (origin : Origin) (root : Option String) (table : NamespaceTable)

/-- The kind of generator that generates a file. -/
def kind : GeneratorKind := origin.product.kind

/-- Generates the file with an origin, below a root directory if there is one. -/
def generate (library : Template.Library) : Except GenerationError GeneratedFile :=
  match origin.product with
  | .contract mode => Java.contract library root table origin.file.space origin.service mode
  | .implementation mode =>
      Java.implementation library root table origin.file.space origin.service mode
  | .binding => Python.binding library root origin.file.name origin.service
  | .registration mode => .ok (Java.registration root origin.file.space origin.service mode)

/-- The file with an origin, below a root directory if there is one. -/
def generated : GeneratedFile :=
  match origin.product with
  | .contract mode => Java.contractFile table origin.file.space origin.service mode root
  | .implementation mode =>
      Java.implementationFile table origin.file.space origin.service mode root
  | .binding => Python.bindingFile origin.file.name origin.service root
  | .registration mode => Java.registration root origin.file.space origin.service mode

/-- The file of every origin can be generated. -/
theorem generate_standard :
    origin.generate root table standardLibrary = .ok (origin.generated root table) := by
  rcases origin with ⟨file, service, product⟩
  cases product with
  | contract mode => exact Java.contract_standard table file.space service mode root
  | implementation mode => exact Java.implementation_standard table file.space service mode root
  | binding => exact Python.binding_standard file.name service root
  | registration mode => rfl

end Origin

namespace Generator

theorem filesOf_eq_map_generated (generator : Generator) (table : NamespaceTable) (file : File)
    (service : Service) :
    generator.filesOf table file service = generator.kind.products.map fun product =>
      Origin.generated ⟨file, service, product⟩ generator.root table := by
  rcases generator with ⟨kind, root⟩
  cases kind with
  | contract => rfl
  | implementation => rfl
  | binding => rfl
  | registration => rfl

end Generator

namespace Options

variable (options : Options)

/-- Whether a kind of generator runs. -/
def generates : GeneratorKind → Bool
  | .contract => options.generatesContracts
  | .implementation => options.generatesImplementations
  | .binding => options.python
  | .registration => options.generatesRegistrations

/-- The root directory for a kind of generator. -/
def rootOf : GeneratorKind → Option String
  | .contract => options.contractRoot
  | .implementation => options.implementationRoot
  | .binding => options.pythonRoot
  | .registration => options.registrationRoot

theorem ofOptions_eq :
    Generator.ofOptions options = GeneratorKind.all.flatMap fun kind =>
      if options.generates kind then [⟨kind, options.rootOf kind⟩] else [] := by
  simp only [GeneratorKind.all, List.flatMap_cons, List.flatMap_nil, List.append_nil]
  rfl

/-- The origins of the files that one kind of generator generates for a schema file. -/
def originsOfKind (file : File) (kind : GeneratorKind) : List Origin :=
  if options.generates kind then
    file.services.flatMap fun service => kind.products.map fun product =>
      ⟨file, service, product⟩
  else []

/-- The origins of the files that are generated for a schema file, in order. -/
def originsOf (file : File) : List Origin :=
  GeneratorKind.all.flatMap (options.originsOfKind file)

theorem kind_of_mem_originsOfKind {file : File} {kind : GeneratorKind} {origin : Origin}
    (member : origin ∈ options.originsOfKind file kind) : origin.kind = kind := by
  rw [originsOfKind] at member
  split at member
  · rcases List.mem_flatMap.mp member with ⟨service, _, inProducts⟩
    rcases List.mem_map.mp inProducts with ⟨product, productMember, rfl⟩
    exact GeneratorKind.kind_of_mem_products productMember
  · cases member

theorem map_generated_originsOfKind (table : NamespaceTable) (file : File)
    (kind : GeneratorKind) :
    ((options.originsOfKind file kind).map fun origin =>
        origin.generated (options.rootOf origin.kind) table) =
      if options.generates kind then
        file.services.flatMap (Generator.filesOf ⟨kind, options.rootOf kind⟩ table file)
      else [] := by
  have sameRoot : ((options.originsOfKind file kind).map fun origin =>
        origin.generated (options.rootOf origin.kind) table) =
      (options.originsOfKind file kind).map fun origin =>
        origin.generated (options.rootOf kind) table := by
    apply List.map_congr_left
    intro origin member
    rw [options.kind_of_mem_originsOfKind member]
  rw [sameRoot, originsOfKind]
  split
  · rw [List.map_flatMap]
    apply List.flatMap_congr
    intro service _
    rw [Generator.filesOf_eq_map_generated, List.map_map]
    rfl
  · rfl

theorem filesOf_ofOptions (table : NamespaceTable) (file : File) :
    Generation.filesOf (Generator.ofOptions options) table file =
      (options.originsOf file).map fun origin =>
        origin.generated (options.rootOf origin.kind) table := by
  rw [Generation.filesOf, ofOptions_eq, originsOf, List.map_flatMap, List.flatMap_assoc]
  apply List.flatMap_congr
  intro kind _
  rw [map_generated_originsOfKind]
  split
  · exact List.flatMap_singleton _ _
  · rfl

end Options

namespace Generation

variable (options : Options) (files : List File) (selection : List String)

/-- The origins of the files that a run generates, in order. -/
def plan : Except GenerationError (List Origin) := do
  checkFiles [] files
  let selected ← selection.mapM (select files)
  pure (selected.flatMap options.originsOf)

/-- The code that options ask for, product by product and each file with its origin. -/
def runWithOrigins : Except GenerationError (List (Origin × GeneratedFile)) := do
  let origins ← plan options files selection
  let library ← Template.Library.standard
  origins.mapM fun origin =>
    (origin.generate (options.rootOf origin.kind) (NamespaceTable.ofFiles files) library).map
      (origin, ·)

theorem plan_eq :
    plan options files selection =
      (acceptedSelection files selection).map (·.flatMap options.originsOf) := by
  rw [plan, acceptedSelection]
  cases checkFiles [] files with
  | error error => rfl
  | ok accepted => rfl

/-- Every product can be generated, so a run fails only where its plan does. -/
theorem runWithOrigins_eq :
    runWithOrigins options files selection = (plan options files selection).map
      (·.map fun origin => (origin, origin.generated (options.rootOf origin.kind)
        (NamespaceTable.ofFiles files))) := by
  rw [runWithOrigins, Template.standard_eq]
  cases plan options files selection with
  | error error => rfl
  | ok origins =>
      apply mapM_eq_ok
      intro origin _
      rw [Origin.generate_standard]
      rfl

/-- A run of the generators is the run product by product, without the origins. -/
theorem runOptions_eq_map_runWithOrigins :
    runOptions options files selection =
      (runWithOrigins options files selection).map (·.map (·.2)) := by
  rw [runOptions, run_eq, runWithOrigins_eq, plan_eq]
  cases acceptedSelection files selection with
  | error error => simp only [Except.map]
  | ok selected =>
      have code : selected.flatMap
            (filesOf (Generator.ofOptions options) (NamespaceTable.ofFiles files)) =
          ((selected.flatMap options.originsOf).map fun origin =>
            (origin, origin.generated (options.rootOf origin.kind)
              (NamespaceTable.ofFiles files))).map (·.2) := by
        rw [List.map_map, List.map_flatMap]
        apply List.flatMap_congr
        intro file _
        exact options.filesOf_ofOptions (NamespaceTable.ofFiles files) file
      exact congrArg Except.ok code

end Generation

end ServiceBindings
