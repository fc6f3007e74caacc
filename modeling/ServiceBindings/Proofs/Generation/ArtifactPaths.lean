import ServiceBindings.Proofs.Artifact.Joined
import ServiceBindings.Proofs.Generation.Paths
import ServiceBindings.Proofs.Identifier
import ServiceBindings.Proofs.Identifier.UpperCamel
import ServiceBindings.Proofs.Java.Lines

/-!
# Generated paths as artifact paths

The paths of generated files are put together from a root, a namespace or the directory of a
schema file, and names.  They are artifact paths as long as none of these leads elsewhere.
Slashes at the ends of a root, a namespace that ends in a dot because the outer class has no
name, and empty namespaces and directories all disappear when the path is joined.
-/

namespace ServiceBindings

open Schema (File Service)

/-! ## Namespaces -/

namespace Identifier

/-- Whether a name is one segment of namespaces and of paths: it is not empty, and none of their
separators is inside.  Every identifier is such a name. -/
structure IsSegment (name : String) : Prop extends IsPlain name where
  named : name ≠ ""

theorem IsSegment.isName {name : String} (isSegment : IsSegment name) :
    Artifact.isName name = true := by
  obtain ⟨first, rest, isCons⟩ : ∃ first rest, name.toList = first :: rest :=
    List.exists_cons_of_ne_nil (by simpa using isSegment.named)
  have member : first ∈ name.toList := by simp [isCons]
  apply Artifact.isName_of_mem member
  intro isDot
  exact isSegment.dot (isDot ▸ member)

/-- Whether a text consists of segments with dots between them; it may be empty. -/
def IsDotted (text : String) : Prop :=
  ∃ parts, (∀ part ∈ parts, IsSegment part) ∧ text = String.intercalate "." parts

theorem isDotted_empty : IsDotted "" := ⟨[], by simp, rfl⟩

theorem IsDotted.slash {text : String} (dotted : IsDotted text) : '/' ∉ text.toList := by
  obtain ⟨parts, areSegments, rfl⟩ := dotted
  exact Text.notMem_intercalate (by decide) fun part member => (areSegments part member).slash

theorem isDotted_qualify {space name : String} (dotted : IsDotted space)
    (isSegment : IsSegment name) : IsDotted (qualify space name) := by
  obtain ⟨parts, areSegments, rfl⟩ := dotted
  by_cases isEmpty : String.intercalate "." parts = ""
  · exact ⟨[name], by simpa using isSegment, by simp [isEmpty]⟩
  · have nonempty : parts ≠ [] := by
      intro noParts
      rw [noParts] at isEmpty
      exact isEmpty rfl
    refine ⟨parts ++ [name], ?_, ?_⟩
    · intro part member
      cases List.mem_append.mp member with
      | inl inParts => exact areSegments part inParts
      | inr isLast => exact List.mem_singleton.mp isLast ▸ isSegment
    · rw [qualify_of_ne_empty isEmpty,
        String.intercalate_append_of_ne_nil nonempty (List.cons_ne_nil name []),
        String.intercalate_singleton]

theorem isPlain_upperCamel (name : String) : IsPlain (upperCamel name) := by
  have absent {separator : Char} (isSeparator : separator.isAlphanum = false) :
      separator ∉ (upperCamel name).toList := by
    intro member
    rw [isAlphanum_of_mem_upperCamel member] at isSeparator
    cases isSeparator
  exact ⟨absent (by decide), absent (by decide)⟩

end Identifier

/-! ## Schema files -/

theorem Path.directoryAndStem_fst (fileName : String) :
    (directoryAndStem fileName).1 = ((Text.cutLast? '/' fileName).getD ("", fileName)).1 := by
  rw [directoryAndStem]
  split
  split <;> simp_all

namespace Schema.File

open Identifier (IsDotted IsPlain IsSegment)

/-- Whether the names in a schema file and in front of its own name lead nowhere else.  Nothing
is asked of the base name of the file. -/
structure IsWellFormed (file : File) : Prop where
  package : ∀ package ∈ file.package, IsDotted package
  javaPackage : ∀ package ∈ file.options.javaPackage, IsDotted package
  outerClass : ∀ name ∈ file.options.javaOuterClass, IsSegment name
  services : ∀ service ∈ file.services, IsSegment service.name
  directories : ∀ name ∈ (Text.segments '/' file.name).dropLast, Artifact.isName name = true

variable {file : File}

theorem isPlain_outerClass (explicit : ∀ name ∈ file.options.javaOuterClass, IsSegment name) :
    IsPlain file.outerClass := by
  rw [outerClass]
  cases isOuter : file.options.javaOuterClass with
  | some name => exact (explicit name isOuter).toIsPlain
  | none =>
      have derived := Identifier.isPlain_upperCamel (Path.directoryAndStem file.name).2
      simp only
      split
      · exact ⟨by simp [derived.slash], by simp [derived.dot]⟩
      · exact derived

/-- The namespace of a file consists of segments; only if the outer class has no name, there may
be a dot behind them. -/
theorem IsWellFormed.space (wellFormed : file.IsWellFormed) :
    ∃ base, IsDotted base ∧ (file.space = base ∨ file.space = base ++ ".") := by
  have dotted : IsDotted (file.options.javaPackage.getD file.packageOrEmpty) := by
    cases isPackage : file.options.javaPackage with
    | some package => exact wellFormed.javaPackage package isPackage
    | none =>
        rw [Option.getD_none, packageOrEmpty]
        cases isDeclared : file.package with
        | some package => exact wellFormed.package package isDeclared
        | none => exact Identifier.isDotted_empty
  have outer := isPlain_outerClass wellFormed.outerClass
  simp only [File.space]
  generalize file.options.javaPackage.getD file.packageOrEmpty = base at dotted
  split
  · exact ⟨base, dotted, .inl rfl⟩
  · by_cases unnamed : file.outerClass = ""
    · refine ⟨base, dotted, ?_⟩
      rw [unnamed, Identifier.qualify, String.append_empty]
      split
      · rename_i isEmpty
        exact .inl (String.isEmpty_iff.mp isEmpty).symm
      · exact .inr rfl
    · exact ⟨_, Identifier.isDotted_qualify dotted ⟨outer, unnamed⟩, .inl rfl⟩

theorem IsWellFormed.slash_notMem_space (wellFormed : file.IsWellFormed) :
    '/' ∉ file.space.toList := by
  obtain ⟨base, dotted, isSpace⟩ := wellFormed.space
  cases isSpace with
  | inl isBase => exact isBase ▸ dotted.slash
  | inr hasDot => simp [hasDot, dotted.slash]

/-- The directory of a namespace leads inside, whether or not the namespace ends in a dot. -/
theorem IsWellFormed.leadsInside_space (wellFormed : file.IsWellFormed) :
    Artifact.LeadsInside (Text.replaceChar '.' '/' file.space) := by
  obtain ⟨base, ⟨parts, areSegments, rfl⟩, isSpace⟩ := wellFormed.space
  have replaced : Text.replaceChar '.' '/' (String.intercalate "." parts) =
      String.intercalate "/" parts :=
    Text.replaceChar_intercalate fun part member => (areSegments part member).dot
  have inside : Artifact.LeadsInside (String.intercalate "/" parts) :=
    Artifact.leadsInside_intercalate (fun part member => (areSegments part member).isName)
      fun part member => (areSegments part member).slash
  cases isSpace with
  | inl isBase => rwa [isBase, replaced]
  | inr hasDot =>
      have separator : Text.replaceChar '.' '/' "." = String.singleton '/' := by decide
      rw [hasDot, Text.replaceChar_append, separator, replaced, Artifact.LeadsInside,
        Text.trimBoth_append_singleton]
      exact inside

theorem IsWellFormed.leadsInside_directory (wellFormed : file.IsWellFormed) :
    Artifact.LeadsInside (Path.directoryAndStem file.name).1 := by
  have isCut := (List.dropLast_append_getLast (Text.segments_ne_nil '/' file.name)).symm
  have areNames := wellFormed.directories
  generalize (Text.segments '/' file.name).dropLast = front at isCut areNames
  have absent : ∀ name ∈ front, '/' ∉ name.toList := by
    intro name member
    apply Text.separator_notMem_of_mem_segments
    rw [isCut]
    exact List.mem_append_left _ member
  rw [Path.directoryAndStem_fst, Text.cutLast?_of_segments isCut]
  split
  · exact .inl rfl
  · exact Artifact.leadsInside_intercalate areNames absent

end Schema.File

/-! ## Generated files -/

namespace Generator

open Artifact (LeadsInside isPath)
open Identifier (IsDotted)

variable {root : Option String} {file : File}

theorem isPath_sourcePath (rootInside : LeadsInside (root.getD ""))
    (wellFormed : file.IsWellFormed) {name : String} (absent : '/' ∉ name.toList) :
    isPath (Java.sourcePath root file.space name) = true := by
  have frontInside : ∀ segment ∈ [root.getD "", Text.replaceChar '.' '/' file.space],
      LeadsInside segment := by
    simpa using ⟨rootInside, wellFormed.leadsInside_space⟩
  apply Artifact.isPath_join_concat frontInside
  · exact @Artifact.isName_of_mem _ 'j' (by simp) (by decide)
  · simp [absent]

theorem isPath_bindingPath (rootInside : LeadsInside (root.getD ""))
    (wellFormed : file.IsWellFormed) {service : String} (absent : '/' ∉ service.toList) :
    isPath (Python.bindingPath root file.name service) = true := by
  have frontInside : ∀ segment ∈ [root.getD "", (Path.directoryAndStem file.name).1],
      LeadsInside segment := by
    simpa using ⟨rootInside, wellFormed.leadsInside_directory⟩
  apply Artifact.isPath_join_concat frontInside
  · exact @Artifact.isName_of_mem _ 'p' (by simp [Python.moduleFileName]) (by decide)
  · have notInName := Identifier.notMem_snakeCase (by decide) absent
    simp [Python.moduleFileName, notInName]

theorem isPath_registrationPath (rootInside : LeadsInside (root.getD ""))
    (wellFormed : file.IsWellFormed) {service : String} (absent : '/' ∉ service.toList)
    (mode : CallMode) :
    isPath (Java.registrationPath root file.space (Java.contractName service mode)) = true := by
  have frontInside : ∀ segment ∈ [root.getD "", "META-INF/services"], LeadsInside segment := by
    simpa using ⟨rootInside, by decide⟩
  apply Artifact.isPath_join_concat frontInside
  · obtain ⟨front, isContract⟩ := Java.exists_contractName_eq_append service mode
    rw [isContract, Java.qualify_append]
    exact @Artifact.isName_of_mem _ 'S' (by simp) (by decide)
  · exact Identifier.notMem_qualify (by decide) wellFormed.slash_notMem_space
      (Java.slash_notMem_contractName absent mode)

theorem isPath_of_mem_pathsOf {generator : Generator}
    (rootInside : LeadsInside (generator.root.getD "")) (wellFormed : file.IsWellFormed)
    {service : Service} (serviceMember : service ∈ file.services) {path : String}
    (member : path ∈ generator.pathsOf (file, service)) : isPath path = true := by
  have absent := (wellFormed.services service serviceMember).slash
  obtain ⟨kind, root⟩ := generator
  cases kind with
  | contract =>
      obtain ⟨mode, _, rfl⟩ := List.mem_map.mp member
      exact isPath_sourcePath rootInside wellFormed (Java.slash_notMem_contractName absent mode)
  | implementation =>
      obtain ⟨mode, _, rfl⟩ := List.mem_map.mp member
      exact isPath_sourcePath rootInside wellFormed
        (Java.slash_notMem_implementationName absent mode)
  | binding =>
      rw [List.mem_singleton.mp member]
      exact isPath_bindingPath rootInside wellFormed absent
  | registration =>
      obtain ⟨mode, _, rfl⟩ := List.mem_map.mp member
      exact isPath_registrationPath rootInside wellFormed absent mode

/-- Every generator succeeds on a well-formed schema file, and all paths that it generates are
artifact paths, as long as its root leads inside. -/
theorem generate_yields_artifact_paths (generator : Generator)
    (rootInside : ∀ root ∈ generator.root, LeadsInside root) (table : NamespaceTable)
    (wellFormed : file.IsWellFormed) :
    ∃ library code, Template.Library.standard = .ok library ∧
      generator.generate library table file = .ok code ∧
      ∀ generated ∈ code, ∃ path, Artifact.Path.ofText generated.path = .ok path := by
  have generated := generator.generate_standard table file
  refine ⟨_, _, Template.standard_eq, generated, ?_⟩
  intro output member
  have isPath : output.path ∈ GeneratedCode.paths _ := List.mem_map_of_mem member
  rw [paths_of_generate Template.standard_eq generated] at isPath
  obtain ⟨service, serviceMember, inPaths⟩ := List.mem_flatMap.mp isPath
  have inside : LeadsInside (generator.root.getD "") := by
    cases isRoot : generator.root with
    | none => exact .inl rfl
    | some root => exact rootInside root isRoot
  exact Artifact.Path.exists_ofText_iff.mpr
    (isPath_of_mem_pathsOf inside wellFormed serviceMember inPaths)

/-- The outer class has no name here, and the namespace ends in a dot. -/
theorem generate_yields_artifact_paths_unnamed_outer_class :
    let orders : Service := ⟨"Orders", [⟨"Place", ⟨"shop.Order"⟩, ⟨"shop.Receipt"⟩, false, false⟩]⟩
    let file : File := ⟨"acme/-.proto", some "acme.shop", .default, [], [], [orders]⟩
    let generator : Generator := ⟨.contract, some "/gen/java/"⟩
    file.space = "acme.shop." ∧
      (∀ root ∈ generator.root, LeadsInside root) ∧ file.IsWellFormed ∧
      ∃ library code, Template.Library.standard = .ok library ∧
        generator.generate library (NamespaceTable.ofFiles [file]) file = .ok code ∧
        code.paths = ["gen/java/acme/shop/OrdersService.java",
          "gen/java/acme/shop/AsyncOrdersService.java"] ∧
        ∀ generated ∈ code, ∃ path, Artifact.Path.ofText generated.path = .ok path := by
  intro orders file generator
  have rootInside : ∀ root ∈ generator.root, LeadsInside root := by decide
  have shop : IsDotted "acme.shop" := by
    refine ⟨["acme", "shop"], ?_, by decide⟩
    rw [List.forall_mem_cons, List.forall_mem_singleton]
    exact ⟨⟨⟨by decide, by decide⟩, by decide⟩, ⟨⟨by decide, by decide⟩, by decide⟩⟩
  have wellFormed : file.IsWellFormed := by
    constructor
    · intro package isPackage
      cases isPackage
      exact shop
    · intro package isPackage
      cases isPackage
    · intro name isName
      cases isName
    · rw [List.forall_mem_singleton]
      exact ⟨⟨by decide, by decide⟩, by decide⟩
    · decide
  obtain ⟨library, code, isStandard, generated, accepted⟩ :=
    generate_yields_artifact_paths generator rootInside (NamespaceTable.ofFiles [file]) wellFormed
  have paths : code.paths = ["gen/java/acme/shop/OrdersService.java",
      "gen/java/acme/shop/AsyncOrdersService.java"] := by
    rw [paths_of_generate isStandard generated]
    decide
  exact ⟨by decide, rootInside, wellFormed, library, code, isStandard, generated, paths, accepted⟩

end Generator

end ServiceBindings
