import ServiceBindings.Proofs.Generation.Paths
import ServiceBindings.Proofs.Java.Header

/-!
# Files that name each other

The contract, the default implementation and the registration of a service in a mode are
generated one by one and must still agree on their names: the registration is named for the
contract and names the implementation, the implementation implements the contract, and both lie
where their full names say.  All names are read from the generated files.
-/

namespace ServiceBindings

open Schema (File Service)

/-- Whether a name can be a part of a full name: it is one word, without the separators of paths
and namespaces. -/
structure Identifier.IsPart (name : String) : Prop extends IsPlain name, Text.IsWord name where
  named : name ≠ ""

instance (name : String) : Decidable (Identifier.IsPart name) :=
  decidable_of_iff (('/' ∉ name.toList ∧ '.' ∉ name.toList) ∧ Text.IsWord name ∧ name ≠ "")
    ⟨fun given => ⟨⟨given.1.1, given.1.2⟩, given.2.1, given.2.2⟩,
      fun given => ⟨⟨given.slash, given.dot⟩, given.toIsWord, given.named⟩⟩

theorem Identifier.isWord_of_parts {parts : List String} (areParts : ∀ part ∈ parts, IsPart part) :
    Text.IsWord (String.intercalate "." parts) :=
  Text.isWord_intercalate (by decide) fun part member => (areParts part member).toIsWord

/-- How a contract, a default implementation and a registration of a namespace refer to each
other under the full names of an interface and of the class that implements it. -/
structure AreLinked (contract implementation registration : GeneratedFile)
    (space interface implementer : String) : Prop where
  contractPackage : Java.declaredPackages contract.content = (Text.nonempty? space).toList
  implementationPackage :
    Java.declaredPackages implementation.content = (Text.nonempty? space).toList
  declaresInterface : Java.declaredInterface? contract.content = some interface
  declaresClass : Java.declaredClass? implementation.content = some implementer
  implementsInterface : Java.implementedInterface? implementation.content = some interface
  registersInterface : (Text.segments '/' registration.path).getLast? = some interface
  registersClass : registration.content = implementer ++ "\n"
  contractPath : contract.path = Text.replaceChar '.' '/' interface ++ ".java"
  implementationPath : implementation.path = Text.replaceChar '.' '/' implementer ++ ".java"

/-! ## The files of one service -/

theorem Java.getLast?_segments_registrationPath {space name : String}
    (spaceAbsent : '/' ∉ space.toList) (nonempty : name ≠ "") (absent : '/' ∉ name.toList) :
    (Text.segments '/' (registrationPath none space name)).getLast? =
      some (Identifier.qualify space name) := by
  have fullAbsent := Identifier.notMem_qualify (by decide) spaceAbsent absent
  have fullNonempty : Identifier.qualify space name ≠ "" := by
    rw [Identifier.qualify]
    split
    · exact nonempty
    · simp
  have directory : Path.directoryPrefix (Path.join ["", "META-INF/services"]) =
      "META-INF/services" ++ String.singleton '/' := by decide
  have path : registrationPath none space name =
      Path.join (["", "META-INF/services"] ++ [Identifier.qualify space name]) := by
    rw [registrationPath, Option.getD_none, List.cons_append, List.singleton_append]
  rw [path, Path.join_concat_of_absent _ fullNonempty fullAbsent, directory,
    Text.segments_append_separator_append, Text.segments_of_absent fullAbsent,
    List.getLast?_concat]

theorem areLinked {parts : List String} (areParts : ∀ part ∈ parts, Identifier.IsPart part)
    {space : String} (isJoined : space = String.intercalate "." parts) {service : Service}
    (serviceIsPart : Identifier.IsPart service.name) (table : NamespaceTable) (mode : CallMode) :
    AreLinked (Java.contractFile table space service mode none)
      (Java.implementationFile table space service mode none)
      (Java.registration none space service mode) space
      (Identifier.qualify space (Java.contractName service.name mode))
      (Identifier.qualify space (Java.implementationName service.name mode)) := by
  have spaceIsWord : Text.IsWord space := by
    rw [isJoined]
    exact Identifier.isWord_of_parts areParts
  have slash : '/' ∉ space.toList := by
    rw [isJoined]
    exact Text.notMem_intercalate (by decide) fun part member => (areParts part member).slash
  have placed : ∀ {name : String}, '/' ∉ name.toList → '.' ∉ name.toList →
      Java.sourcePath none space name =
        Text.replaceChar '.' '/' (Identifier.qualify space name) ++ ".java" := by
    intro name nameSlash nameDot
    rw [isJoined]
    exact Java.sourcePath_of_parts (fun part member => (areParts part member).named)
      (fun part member => (areParts part member).slash)
      (fun part member => (areParts part member).dot) nameSlash nameDot
  have contractSlash := Java.slash_notMem_contractName serviceIsPart.slash mode
  constructor
  · rw [Java.content_contractFile]
    exact Java.declaredPackages_contractLines spaceIsWord serviceIsPart.toIsWord
  · rw [Java.content_implementationFile]
    exact Java.declaredPackages_implementationLines spaceIsWord serviceIsPart.toIsWord
  · rw [Java.content_contractFile]
    exact Java.declaredInterface?_contractLines spaceIsWord serviceIsPart.toIsWord
  · rw [Java.content_implementationFile]
    exact Java.declaredClass?_implementationLines spaceIsWord serviceIsPart.toIsWord
  · rw [Java.content_implementationFile]
    exact Java.implementedInterface?_implementationLines spaceIsWord serviceIsPart.toIsWord
  · have path : (Java.registration none space service mode).path =
        Java.registrationPath none space (Java.contractName service.name mode) := by
      simp only [Java.registration, Java.registrationPath]
    rw [path]
    exact Java.getLast?_segments_registrationPath slash
      (Java.contractName_ne_empty service.name mode) contractSlash
  · simp only [Java.registration]
  · rw [Java.path_contractFile]
    exact placed contractSlash (Java.dot_notMem_contractName serviceIsPart.dot mode)
  · rw [Java.path_implementationFile]
    exact placed (Java.slash_notMem_implementationName serviceIsPart.slash mode)
      (Java.dot_notMem_implementationName serviceIsPart.dot mode)

/-! ## The files of all services -/

/-- The results for items lie one after the other, if there are equally many for each. -/
theorem getElem?_flatMap {α β : Type} {image : α → List β} {width : Nat}
    (uniform : ∀ item, (image item).length = width) {items : List α} {index offset : Nat}
    {item : α} (itemAt : items[index]? = some item) (inRange : offset < width) :
    (items.flatMap image)[width * index + offset]? = (image item)[offset]? := by
  induction items generalizing index with
  | nil => cases itemAt
  | cons first rest ih =>
      rw [List.flatMap_cons]
      cases index with
      | zero =>
          rw [List.getElem?_cons_zero, Option.some.injEq] at itemAt
          rw [Nat.mul_zero, Nat.zero_add, List.getElem?_append_left (by rwa [uniform]), itemAt]
      | succ previous =>
          have skipped : (image first).length ≤ width * (previous + 1) + offset := by
            rw [uniform, Nat.mul_succ]
            omega
          have left : width * (previous + 1) + offset - (image first).length =
              width * previous + offset := by
            rw [uniform, Nat.mul_succ]
            omega
          rw [List.getElem?_append_right skipped, left]
          exact ih itemAt

namespace Generation

/-- For every service of a file and each mode, the generators of Java files generate a contract,
a default implementation and a registration that name each other.  They stand in the same place
in what is generated.  If no name of a method or message has a line break, then no line declares
a package beside the one before the type. -/
theorem generated_java_files_are_linked (table : NamespaceTable) {file : File}
    {parts : List String} (isJoined : file.space = String.intercalate "." parts)
    (areParts : ∀ part ∈ parts, Identifier.IsPart part)
    (servicesAreParts : ∀ service ∈ file.services, Identifier.IsPart service.name) :
    ∃ library contracts implementations registrations,
      Template.Library.standard = .ok library ∧
      Generator.generate ⟨.contract, none⟩ library table file = .ok contracts ∧
      Generator.generate ⟨.implementation, none⟩ library table file = .ok implementations ∧
      Generator.generate ⟨.registration, none⟩ library table file = .ok registrations ∧
      ∀ (index offset : Nat) (service : Service) (mode : CallMode),
        file.services[index]? = some service → CallMode.all[offset]? = some mode →
        ∃ contract implementation registration,
          contracts[2 * index + offset]? = some contract ∧
          implementations[2 * index + offset]? = some implementation ∧
          registrations[2 * index + offset]? = some registration ∧
          AreLinked contract implementation registration file.space
            (Identifier.qualify file.space (Java.contractName service.name mode))
            (Identifier.qualify file.space (Java.implementationName service.name mode)) ∧
          (table.HoldsLines → service.IsOfLines →
            Java.packagesIn contract.content = (Text.nonempty? file.space).toList ∧
            Java.packagesIn implementation.content = (Text.nonempty? file.space).toList) := by
  refine ⟨Template.standardLibrary, _, _, _, Template.standard_eq,
    Generator.generate_standard _ table file, Generator.generate_standard _ table file,
    Generator.generate_standard _ table file, ?_⟩
  intro index offset service mode serviceAt modeAt
  have servicesIsPart := servicesAreParts service (List.mem_of_getElem? serviceAt)
  have inRange : offset < 2 := (List.getElem?_eq_some_iff.mp modeAt).1
  have elementAt : ∀ (kind : GeneratorKind) (fileOf : CallMode → GeneratedFile),
      (∀ other, (Generator.filesOf ⟨kind, none⟩ table file other).length = 2) →
      Generator.filesOf ⟨kind, none⟩ table file service = CallMode.all.map fileOf →
        (file.services.flatMap (Generator.filesOf ⟨kind, none⟩ table file))[2 * index + offset]? =
          some (fileOf mode) := by
    intro kind fileOf uniform isMap
    rw [getElem?_flatMap uniform serviceAt inRange, isMap, List.getElem?_map, modeAt,
      Option.map_some]
  have spaceIsWord : Text.IsWord file.space := by
    rw [isJoined]
    exact Identifier.isWord_of_parts areParts
  refine ⟨Java.contractFile table file.space service mode none,
    Java.implementationFile table file.space service mode none,
    Java.registration none file.space service mode,
    elementAt .contract (Java.contractFile table file.space service · none) (fun _ => rfl) rfl,
    elementAt .implementation (Java.implementationFile table file.space service · none)
      (fun _ => rfl) rfl,
    elementAt .registration (Java.registration none file.space service) (fun _ => rfl) rfl,
    areLinked areParts isJoined servicesIsPart table mode, ?_⟩
  intro holdsLines isOfLines
  exact ⟨Java.packagesIn_contractLines
      (Java.isLine_of_mem_contractLines holdsLines spaceIsWord.line isOfLines),
    Java.packagesIn_implementationLines
      (Java.isLine_of_mem_implementationLines holdsLines spaceIsWord.line isOfLines)⟩

theorem generated_java_files_are_linked_orders :
    let orders : File := ⟨"shop/orders.proto", some "shop", .default, [⟨"Order", []⟩], [],
      [⟨"Orders", [⟨"Place", ⟨"shop.Order"⟩, ⟨"shop.Order"⟩, false, true⟩]⟩]⟩
    let table := NamespaceTable.ofFiles [orders]
    ∃ library contracts implementations registrations contract implementation registration,
      Template.Library.standard = .ok library ∧
      Generator.generate ⟨.contract, none⟩ library table orders = .ok contracts ∧
      Generator.generate ⟨.implementation, none⟩ library table orders = .ok implementations ∧
      Generator.generate ⟨.registration, none⟩ library table orders = .ok registrations ∧
      contracts[1]? = some contract ∧ implementations[1]? = some implementation ∧
      registrations[1]? = some registration ∧
      AreLinked contract implementation registration "shop.OrdersOuterClass"
        "shop.OrdersOuterClass.AsyncOrdersService"
        "shop.OrdersOuterClass.OrdersDefaultAsyncImpl" := by
  intro orders table
  have space : orders.space = "shop.OrdersOuterClass" := by decide
  have isJoined : orders.space = String.intercalate "." ["shop", "OrdersOuterClass"] := by decide
  have areParts : ∀ part ∈ ["shop", "OrdersOuterClass"], Identifier.IsPart part := by decide
  have servicesAreParts : ∀ service ∈ orders.services, Identifier.IsPart service.name := by decide
  obtain ⟨library, contracts, implementations, registrations, standard, contractsGenerated,
    implementationsGenerated, registrationsGenerated, linked⟩ :=
    generated_java_files_are_linked table isJoined areParts servicesAreParts
  obtain ⟨contract, implementation, registration, contractAt, implementationAt, registrationAt,
    links, _⟩ := linked 0 1 _ .async rfl rfl
  rw [space] at links
  exact ⟨library, contracts, implementations, registrations, contract, implementation, registration,
    standard, contractsGenerated, implementationsGenerated, registrationsGenerated, contractAt,
    implementationAt, registrationAt, links⟩

end Generation

end ServiceBindings
