import Mathlib.Data.List.Nodup
import Mathlib.Data.List.Perm.Basic
import ServiceBindings.Proofs.Generation.Rendered
import ServiceBindings.Proofs.Java.Name
import ServiceBindings.Proofs.Python.Name

/-!
# Paths of generated files

The paths of the files for a service depend on nothing but its name, its schema file and the
root of the generator.  Different generators never use the same path, since their paths end
differently, and a generator uses a path twice only for services that clash.
-/

namespace ServiceBindings

open Schema (File Service)

/-- Whether a name is without the separators of paths and namespaces. -/
structure Identifier.IsPlain (name : String) : Prop where
  slash : '/' ∉ name.toList
  dot : '.' ∉ name.toList

namespace Generator

/-- The paths of the files that a generator generates for a service. -/
def pathsOf (generator : Generator) (source : File × Service) : List String :=
  match generator.kind with
  | .contract => CallMode.all.map fun mode =>
      Java.sourcePath generator.root source.1.space (Java.contractName source.2.name mode)
  | .implementation => CallMode.all.map fun mode =>
      Java.sourcePath generator.root source.1.space (Java.implementationName source.2.name mode)
  | .binding => [Python.bindingPath generator.root source.1.name source.2.name]
  | .registration => CallMode.all.map fun mode =>
      Java.registrationPath generator.root source.1.space (Java.contractName source.2.name mode)

theorem map_path_filesOf (generator : Generator) (table : NamespaceTable) (file : File)
    (service : Service) :
    (generator.filesOf table file service).map (·.path) = generator.pathsOf (file, service) := by
  rcases generator with ⟨kind, root⟩
  cases kind with
  | contract =>
      simp only [filesOf, pathsOf, List.map_map, Function.comp_def, Java.path_contractFile]
  | implementation =>
      simp only [filesOf, pathsOf, List.map_map, Function.comp_def, Java.path_implementationFile]
  | binding =>
      simp only [filesOf, pathsOf, List.map_cons, List.map_nil, Python.bindingFile,
        Python.bindingPath]
  | registration =>
      simp only [filesOf, pathsOf, List.map_map, Function.comp_def, Java.registration,
        Java.registrationPath]

/-- The files that a generator generates for a schema file are at the paths for its services, in the
order of the services. -/
theorem paths_of_generate {generator : Generator} {table : NamespaceTable} {file : File}
    {library : Template.Library} {code : GeneratedCode}
    (isStandard : Template.Library.standard = .ok library)
    (generated : generator.generate library table file = .ok code) :
    code.paths = file.services.flatMap fun service => generator.pathsOf (file, service) := by
  rw [Template.standard_eq] at isStandard
  cases isStandard
  rw [generate_standard] at generated
  cases generated
  simp only [GeneratedCode.paths, List.map_flatMap, map_path_filesOf]

/-! ## Different generators -/

/-- How the paths of a generator end. -/
def ending : GeneratorKind → String
  | .contract => "Service.java"
  | .implementation => "Impl.java"
  | .binding => "_service.py"
  | .registration => "Service"

theorem ending_suffix_iff (left right : GeneratorKind) :
    (ending left).toList <:+ (ending right).toList ↔ left = right := by
  cases left <;> cases right <;> decide

theorem suffix_of_mem_pathsOf {generator : Generator} {source : File × Service} {path : String}
    (member : path ∈ generator.pathsOf source) :
    (ending generator.kind).toList <:+ path.toList := by
  rcases generator with ⟨kind, root⟩
  cases kind with
  | contract =>
      rcases List.mem_map.mp member with ⟨mode, _, rfl⟩
      rcases Java.exists_contractName_eq_append source.2.name mode with ⟨front, isContract⟩
      rw [Java.sourcePath, isContract, String.append_assoc]
      exact Path.suffix_join_concat [root.getD "", Text.replaceChar '.' '/' source.1.space] front
        (by simp [ending]) (by simp [ending])
  | implementation =>
      rcases List.mem_map.mp member with ⟨mode, _, rfl⟩
      rcases Java.exists_implementationName_eq_append source.2.name mode with
        ⟨front, isImplementation⟩
      rw [Java.sourcePath, isImplementation, String.append_assoc]
      exact Path.suffix_join_concat [root.getD "", Text.replaceChar '.' '/' source.1.space] front
        (by simp [ending]) (by simp [ending])
  | binding =>
      rw [List.mem_singleton.mp member]
      exact Path.suffix_join_concat [root.getD "", (Path.directoryAndStem source.1.name).1]
        (Identifier.snakeCase source.2.name) (by simp [ending]) (by simp [ending])
  | registration =>
      rcases List.mem_map.mp member with ⟨mode, _, rfl⟩
      rcases Java.exists_contractName_eq_append source.2.name mode with ⟨front, isContract⟩
      rw [Java.registrationPath, isContract, Java.qualify_append]
      exact Path.suffix_join_concat [root.getD "", "META-INF/services"]
        (Identifier.qualify source.1.space front) (by simp [ending]) (by simp [ending])

theorem disjoint_of_kind_ne {left right : Generator} (different : left.kind ≠ right.kind)
    (leftSource rightSource : File × Service) :
    (left.pathsOf leftSource).Disjoint (right.pathsOf rightSource) := by
  intro path leftMember rightMember
  have leftEnding := suffix_of_mem_pathsOf leftMember
  have rightEnding := suffix_of_mem_pathsOf rightMember
  rcases List.suffix_or_suffix_of_suffix leftEnding rightEnding with suffix | suffix
  · exact different ((ending_suffix_iff left.kind right.kind).mp suffix)
  · exact different ((ending_suffix_iff right.kind left.kind).mp suffix).symm

/-! ## One generator -/

/-- Whether a kind of generator uses one path for services of two names. -/
def Clash (kind : GeneratorKind) (left right : File × Service) : Prop :=
  match kind with
  | .contract => Java.sourceDirectory left.1.space = Java.sourceDirectory right.1.space ∧
      Java.ShareContract left.2.name right.2.name
  | .implementation => Java.sourceDirectory left.1.space = Java.sourceDirectory right.1.space ∧
      left.2.name = right.2.name
  | .binding => Python.sourceDirectory left.1.name = Python.sourceDirectory right.1.name ∧
      Identifier.snakeCase left.2.name = Identifier.snakeCase right.2.name
  | .registration =>
      Java.registrationPrefix left.1.space = Java.registrationPrefix right.1.space ∧
        Java.ShareContract left.2.name right.2.name

theorem mem_allModes (mode : CallMode) : mode ∈ CallMode.all := by
  cases mode <;> decide

theorem disjoint_map_allModes_iff {α : Type} (left right : CallMode → α) :
    (CallMode.all.map left).Disjoint (CallMode.all.map right) ↔
      ¬∃ leftMode rightMode, left leftMode = right rightMode := by
  constructor
  · intro disjoint given
    rcases given with ⟨leftMode, rightMode, same⟩
    exact disjoint (List.mem_map_of_mem (mem_allModes leftMode))
      (same ▸ List.mem_map_of_mem (mem_allModes rightMode))
  · intro different item leftMember rightMember
    rcases List.mem_map.mp leftMember with ⟨leftMode, _, rfl⟩
    rcases List.mem_map.mp rightMember with ⟨rightMode, _, same⟩
    exact different ⟨leftMode, rightMode, same.symm⟩

/-- Whether the registrations of two services tell namespaces and names apart: the namespaces
are the same, or there is no dot in the names. -/
def AreSeparable (left right : File × Service) : Prop :=
  left.1.space = right.1.space ∨ '.' ∉ left.2.name.toList ∧ '.' ∉ right.2.name.toList

theorem registeredName_eq_iff {left right : File × Service} (separable : AreSeparable left right)
    (leftMode rightMode : CallMode) :
    Java.registrationPrefix left.1.space ++ Java.contractName left.2.name leftMode =
        Java.registrationPrefix right.1.space ++ Java.contractName right.2.name rightMode ↔
      Java.registrationPrefix left.1.space = Java.registrationPrefix right.1.space ∧
        Java.contractName left.2.name leftMode = Java.contractName right.2.name rightMode := by
  rcases separable with sameSpace | ⟨leftAbsent, rightAbsent⟩
  · rw [sameSpace, String.append_right_inj, eq_self_iff_true, true_and]
  · exact Java.registrationPrefix_append_inj left.1.space right.1.space
      (Java.dot_notMem_contractName leftAbsent leftMode)
      (Java.dot_notMem_contractName rightAbsent rightMode)

theorem disjoint_pathsOf_iff (generator : Generator) {left right : File × Service}
    (leftAbsent : '/' ∉ left.2.name.toList) (rightAbsent : '/' ∉ right.2.name.toList)
    (separable : AreSeparable left right) :
    (generator.pathsOf left).Disjoint (generator.pathsOf right) ↔
      ¬Clash generator.kind left right := by
  rcases generator with ⟨kind, root⟩
  cases kind with
  | contract =>
      have samePath := fun leftMode rightMode =>
        Java.sourcePath_eq_iff root left.1.space right.1.space
          (Java.slash_notMem_contractName leftAbsent leftMode)
          (Java.slash_notMem_contractName rightAbsent rightMode)
      simp only [pathsOf, Clash, disjoint_map_allModes_iff, samePath, exists_and_left,
        ← Java.exists_contractName_eq_iff]
  | implementation =>
      have samePath := fun leftMode rightMode =>
        Java.sourcePath_eq_iff root left.1.space right.1.space
          (Java.slash_notMem_implementationName leftAbsent leftMode)
          (Java.slash_notMem_implementationName rightAbsent rightMode)
      simp only [pathsOf, Clash, disjoint_map_allModes_iff, samePath, exists_and_left,
        Java.exists_implementationName_eq_iff]
  | binding =>
      have samePath := Python.bindingPath_eq_iff root right.1.name left.1.name rightAbsent
        leftAbsent
      simp only [pathsOf, Clash, List.disjoint_singleton, List.mem_singleton, samePath]
      rw [eq_comm, @eq_comm _ (Identifier.snakeCase _)]
  | registration =>
      have samePath := fun leftMode rightMode =>
        (Java.registrationPath_eq_iff root left.1.space right.1.space
          (Java.contractName_ne_empty left.2.name leftMode)
          (Java.slash_notMem_contractName leftAbsent leftMode)
          (Java.contractName_ne_empty right.2.name rightMode)
          (Java.slash_notMem_contractName rightAbsent rightMode)).trans
        (registeredName_eq_iff separable leftMode rightMode)
      simp only [pathsOf, Clash, disjoint_map_allModes_iff, samePath, exists_and_left,
        ← Java.exists_contractName_eq_iff]

theorem nodup_map_allModes {α : Type} {pathOf : CallMode → α}
    (different : pathOf .sync ≠ pathOf .async) : (CallMode.all.map pathOf).Nodup := by
  simpa [CallMode.all] using different

theorem nodup_pathsOf (generator : Generator) {source : File × Service}
    (absent : '/' ∉ source.2.name.toList) : (generator.pathsOf source).Nodup := by
  rcases generator with ⟨kind, root⟩
  cases kind with
  | contract =>
      simp only [pathsOf]
      apply nodup_map_allModes
      intro same
      rw [Java.sourcePath_eq_iff root _ _ (Java.slash_notMem_contractName absent _)
        (Java.slash_notMem_contractName absent _)] at same
      exact Java.contractName_sync_ne_async source.2.name same.2
  | implementation =>
      simp only [pathsOf]
      apply nodup_map_allModes
      intro same
      rw [Java.sourcePath_eq_iff root _ _ (Java.slash_notMem_implementationName absent _)
        (Java.slash_notMem_implementationName absent _),
        Java.implementationName_eq_iff] at same
      cases same.2.2
  | binding => exact List.nodup_singleton _
  | registration =>
      simp only [pathsOf]
      apply nodup_map_allModes
      intro same
      rw [Java.registrationPath_eq_iff root _ _ (Java.contractName_ne_empty _ _)
        (Java.slash_notMem_contractName absent _) (Java.contractName_ne_empty _ _)
        (Java.slash_notMem_contractName absent _), String.append_right_inj] at same
      exact Java.contractName_sync_ne_async source.2.name same

theorem pairwise_kind_ofOptions (options : Options) :
    (ofOptions options).Pairwise fun left right => left.kind ≠ right.kind := by
  rw [ofOptions]
  cases options.generatesContracts <;> cases options.generatesImplementations <;>
    cases options.python <;> cases options.generatesRegistrations <;> simp

end Generator

namespace Generation

/-- The services of files, each with its file. -/
def servicesOf (files : List File) : List (File × Service) :=
  files.flatMap fun file => file.services.map (file, ·)

theorem flatMap_flatMap_perm {α β γ : Type} (left : List α) (right : List β)
    (image : α → β → List γ) :
    (left.flatMap fun first => right.flatMap (image first)).Perm
      (right.flatMap fun second => left.flatMap (image · second)) := by
  induction left with
  | nil => simp
  | cons first rest ih =>
      simp only [List.flatMap_cons]
      exact (ih.append_left _).trans (List.flatMap_append_perm _ _ _)

/-- The paths of the files that are generated for files, generator by generator. -/
theorem map_path_filesOf_perm (generators : List Generator) (table : NamespaceTable)
    (files : List File) :
    ((files.flatMap (filesOf generators table)).map (·.path)).Perm
      (generators.flatMap fun generator => (servicesOf files).flatMap generator.pathsOf) := by
  have paths : (files.flatMap (filesOf generators table)).map (·.path) =
      files.flatMap fun file => generators.flatMap fun generator =>
        file.services.flatMap fun service => generator.pathsOf (file, service) := by
    simp only [filesOf, List.map_flatMap, Generator.map_path_filesOf]
  have grouped : ∀ generator : Generator, (servicesOf files).flatMap generator.pathsOf =
      files.flatMap fun file =>
        file.services.flatMap fun service => generator.pathsOf (file, service) := by
    intro generator
    simp only [servicesOf, List.flatMap_assoc, List.flatMap_map]
  simp only [paths, grouped]
  exact flatMap_flatMap_perm _ _ _

theorem forall_pairwise_iff {ι α : Type} (indices : List ι) (items : List α)
    (relation : ι → α → α → Prop) :
    (∀ index ∈ indices, items.Pairwise (relation index)) ↔
      items.Pairwise fun left right => ∀ index ∈ indices, relation index left right := by
  induction items with
  | nil => simp
  | cons first rest ih =>
      simp only [List.pairwise_cons, ← ih]
      constructor
      · intro every
        exact ⟨fun other member index indexMember => (every index indexMember).1 other member,
          fun index indexMember => (every index indexMember).2⟩
      · intro given index indexMember
        rcases given with ⟨head, tail⟩
        exact ⟨fun other member => head other member index indexMember, tail index indexMember⟩

/-- Whether one of some generators uses one path for two services. -/
def Clash (generators : List Generator) (left right : File × Service) : Prop :=
  ∃ generator ∈ generators, Generator.Clash generator.kind left right

/-- The paths of generated files are distinct if and only if no services clash, as long as
registrations tell namespaces and names apart. -/
theorem nodup_path_iff_of_separable {generators : List Generator}
    (differ : generators.Pairwise fun left right => left.kind ≠ right.kind)
    (table : NamespaceTable) {files : List File}
    (absent : ∀ source ∈ servicesOf files, '/' ∉ source.2.name.toList)
    (separable : ∀ left ∈ servicesOf files, ∀ right ∈ servicesOf files,
      Generator.AreSeparable left right) :
    ((files.flatMap (filesOf generators table)).map (·.path)).Nodup ↔
      (servicesOf files).Pairwise fun left right => ¬Clash generators left right := by
  rw [(map_path_filesOf_perm generators table files).nodup_iff, List.nodup_flatMap]
  have separate : generators.Pairwise (Function.onFun List.Disjoint fun generator =>
      (servicesOf files).flatMap generator.pathsOf) := by
    refine differ.imp ?_
    intro left right different path leftMember rightMember
    rcases List.mem_flatMap.mp leftMember with ⟨leftSource, _, leftPath⟩
    rcases List.mem_flatMap.mp rightMember with ⟨rightSource, _, rightPath⟩
    exact Generator.disjoint_of_kind_ne different leftSource rightSource leftPath rightPath
  have each : ∀ generator : Generator,
      ((servicesOf files).flatMap generator.pathsOf).Nodup ↔
        (servicesOf files).Pairwise fun left right =>
          ¬Generator.Clash generator.kind left right := by
    intro generator
    rw [List.nodup_flatMap]
    have single : ∀ source ∈ servicesOf files, (generator.pathsOf source).Nodup :=
      fun source member => Generator.nodup_pathsOf generator (absent source member)
    rw [and_iff_right single]
    apply List.Pairwise.iff_of_mem
    intro left right leftMember rightMember
    exact Generator.disjoint_pathsOf_iff generator (absent left leftMember)
      (absent right rightMember) (separable left leftMember right rightMember)
  rw [and_iff_left separate]
  simp only [each, Clash, not_exists, not_and]
  exact forall_pairwise_iff generators (servicesOf files) _

/-- The paths of generated files are distinct if and only if no services clash. -/
theorem nodup_path_iff {generators : List Generator}
    (differ : generators.Pairwise fun left right => left.kind ≠ right.kind)
    (table : NamespaceTable) {files : List File}
    (plain : ∀ source ∈ servicesOf files, Identifier.IsPlain source.2.name) :
    ((files.flatMap (filesOf generators table)).map (·.path)).Nodup ↔
      (servicesOf files).Pairwise fun left right => ¬Clash generators left right := by
  apply nodup_path_iff_of_separable differ table
  · intro source member
    exact (plain source member).slash
  · intro left leftMember right rightMember
    exact .inr ⟨(plain left leftMember).dot, (plain right rightMember).dot⟩

end Generation

end ServiceBindings
