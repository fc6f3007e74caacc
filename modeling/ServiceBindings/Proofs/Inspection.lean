import Mathlib.Data.List.Forall2
import ServiceBindings.Inspection
import ServiceBindings.Proofs.Generation.Rendered
import ServiceBindings.Proofs.Java.Header

/-!
# Reports and generated files

A report is made without generating anything.  It names the types that the generated texts declare
all the same, and its flags say which methods the blocking implementation overrides.
-/

namespace ServiceBindings

open Schema (File Method Service)

namespace Java

/-- Whether the type of a text in a namespace is an interface with a name. -/
def DeclaresInterface (space name text : String) : Prop :=
  ∃ members, text = Text.ofLines (packageLines space ++ interfaceLine name :: members)

/-- Whether the type of a text in a namespace is a derived class with a name. -/
def DeclaresClass (space name text : String) : Prop :=
  ∃ ancestry members, text = Text.ofLines (packageLines space ++
    ("public class " ++ name ++ " extends " ++ ancestry) :: members)

section Files

variable (table : NamespaceTable) (space : String) (service : Service) (mode : CallMode)
  (root : Option String)

theorem declaresInterface_contractFile :
    DeclaresInterface space (contractName service.name mode)
      (contractFile table space service mode root).content :=
  ⟨_, (content_contractFile ..).trans
    (congrArg Text.ofLines (contractLines_eq_header table space service mode))⟩

theorem classLine_eq_append (service : String) :
    classLine space service mode = "public class " ++ implementationName service mode ++
      " extends " ++ (runtimePackage ++ ".AbstractGrpcService<" ++ stubClass space service mode ++
        "> implements " ++ Identifier.qualify space (contractName service mode) ++ " \x7b") := by
  unfold classLine
  simp only [String.append_assoc]

theorem declaresClass_implementationFile :
    DeclaresClass space (implementationName service.name mode)
      (implementationFile table space service mode root).content := by
  have headed := implementationLines_eq_header table space service mode
  rw [classLine_eq_append] at headed
  exact ⟨_, _, (content_implementationFile ..).trans (congrArg Text.ofLines headed)⟩

theorem overriddenIn_implementationLines_eq :
    overriddenIn (implementationLines table space service mode) =
      declarations table mode (implementedMethods mode service.methods) := by
  have overridden := overriddenIn_implementationLines table space service mode []
  rwa [List.append_nil, overriddenIn, List.append_nil] at overridden

end Files

end Java

/-- Whether the names of a service and of what its methods refer to can be read back from
generated texts. -/
structure Schema.Service.HasReadableNames (service : Service) (table : NamespaceTable)
    (space : String) : Prop where
  tableHoldsLines : table.HoldsLines
  spaceIsWord : Text.IsWord space
  nameIsWord : Text.IsWord service.name
  methodsAreOfLines : ∀ method ∈ service.methods, method.IsOfLines

namespace ServiceReport

/-- The methods of a service that the blocking implementation provides according to its report. -/
def providedMethods (report : ServiceReport) (service : Service) : List Method :=
  ((service.methods.zip report.methods).filter (·.2.isBlockingImplemented)).map (·.1)

variable (table : NamespaceTable) (file : File) (service : Service)
  (contract implementation : CallMode → GeneratedFile) (report : ServiceReport)

/-- Whether a report tells the truth about a service and the files that are generated for it. -/
structure Describes : Prop where
  sameFile : report.file = file.name
  sameName : report.name = service.name
  sameMethods : report.methods.map (fun method => (method.name, method.inputType, method.outputType)) =
    service.methods.map fun method =>
      (method.name, method.inputType.fullName, method.outputType.fullName)
  contracts : List.Forall₂
    (fun mode name => Java.DeclaresInterface file.space name (contract mode).content)
    [.sync, .async] report.contracts
  implementations : List.Forall₂
    (fun mode name => Java.DeclaresClass file.space name (implementation mode).content)
    [.sync, .async] report.implementations
  /-- Methods are read from the lines as they are put together: names with line breaks inside would
  hide them in the text. -/
  content : ∀ mode, (implementation mode).content =
    Text.ofLines (Java.implementationLines table file.space service mode)
  blocking : Java.overriddenIn (Java.implementationLines table file.space service .sync) =
    Java.declarations table .sync (report.providedMethods service)
  async : Java.overriddenIn (Java.implementationLines table file.space service .async) =
    Java.declarations table .async service.methods

/-- Whether what a report tells is what one reads in the files that are generated for a service. -/
structure IsRead : Prop where
  contracts : List.Forall₂ (fun mode name =>
      Java.declaredInterface? (contract mode).content = some (Identifier.qualify file.space name))
    [.sync, .async] report.contracts
  implementations : List.Forall₂ (fun mode name =>
      Java.declaredClass? (implementation mode).content = some (Identifier.qualify file.space name))
    [.sync, .async] report.implementations
  blocking : Java.overriddenDeclarations (implementation .sync).content =
    Java.declarations table .sync (report.providedMethods service)
  async : Java.overriddenDeclarations (implementation .async).content =
    Java.declarations table .async service.methods

theorem providedMethods_ofService :
    (ofService file service).providedMethods service =
      Java.implementedMethods .sync service.methods := by
  have flagged (methods : List Method) :
      ((methods.zip (methods.map MethodReport.ofMethod)).filter
        (·.2.isBlockingImplemented)).map (·.1) = Java.implementedMethods .sync methods := by
    induction methods with
    | nil => rfl
    | cons method rest ih =>
        rw [List.map_cons, List.zip_cons_cons, List.filter_cons, Java.implementedMethods,
          List.filter_cons, ← Java.implementedMethods, ← ih, MethodReport.ofMethod]
        split <;> rfl
  exact flagged service.methods

theorem describes_ofService (contractRoot implementationRoot : Option String) :
    (ofService file service).Describes table file service
      (Java.contractFile table file.space service · contractRoot)
      (Java.implementationFile table file.space service · implementationRoot) where
  sameFile := rfl
  sameName := rfl
  sameMethods := by simp [ofService, MethodReport.ofMethod]
  contracts := by
    apply List.forall₂_map_right_iff.mpr
    exact List.forall₂_same.mpr fun mode _ => Java.declaresInterface_contractFile ..
  implementations := by
    apply List.forall₂_map_right_iff.mpr
    exact List.forall₂_same.mpr fun mode _ => Java.declaresClass_implementationFile ..
  content mode := Java.content_implementationFile table file.space service mode implementationRoot
  blocking := by
    rw [providedMethods_ofService]
    exact Java.overriddenIn_implementationLines_eq table file.space service .sync
  async := by
    rw [← Java.implementedMethods_async service.methods]
    exact Java.overriddenIn_implementationLines_eq table file.space service .async

variable {table file service} in
theorem isRead_ofService (readable : service.HasReadableNames table file.space)
    (contractRoot implementationRoot : Option String) :
    (ofService file service).IsRead table file service
      (Java.contractFile table file.space service · contractRoot)
      (Java.implementationFile table file.space service · implementationRoot) := by
  have serviceIsOfLines : service.IsOfLines :=
    ⟨readable.nameIsWord.line, readable.methodsAreOfLines⟩
  have overridden (mode : CallMode) : Java.overriddenDeclarations
      (Java.implementationFile table file.space service mode implementationRoot).content =
        Java.declarations table mode (Java.implementedMethods mode service.methods) := by
    rw [Java.content_implementationFile]
    exact Java.overriddenDeclarations_implementationLines
      (Java.isLine_of_mem_implementationLines readable.tableHoldsLines readable.spaceIsWord.line
        serviceIsOfLines)
  refine ⟨?_, ?_, ?_, ?_⟩
  · apply List.forall₂_map_right_iff.mpr
    refine List.forall₂_same.mpr fun mode _ => ?_
    rw [Java.content_contractFile]
    exact Java.declaredInterface?_contractLines readable.spaceIsWord readable.nameIsWord
  · apply List.forall₂_map_right_iff.mpr
    refine List.forall₂_same.mpr fun mode _ => ?_
    rw [Java.content_implementationFile]
    exact Java.declaredClass?_implementationLines readable.spaceIsWord readable.nameIsWord
  · rw [providedMethods_ofService]
    exact overridden .sync
  · rw [← Java.implementedMethods_async service.methods]
    exact overridden .async

end ServiceReport

/-- The services of files in order, each with its file. -/
def declaredServices (files : List File) : List (File × Service) :=
  files.flatMap fun file => file.services.map (file, ·)

theorem inspect_eq_map (files : List File) :
    inspect files = (declaredServices files).map fun declared =>
      ServiceReport.ofService declared.1 declared.2 := by
  rw [inspect, declaredServices, List.map_flatMap]
  simp only [List.map_map, Function.comp_def]

/-- The reports are about all services in order, and each describes what the generators of contracts
and default implementations generate for its service.  Where names can be read back, the report
tells what one reads in the generated files. -/
theorem inspect_describes_generation (files : List File)
    (contractRoot implementationRoot : Option String) :
    let table := NamespaceTable.ofFiles files
    ∃ library, ∃ contract implementation : File → Service → CallMode → GeneratedFile,
      Template.Library.standard = .ok library ∧
      (∀ file, Generator.generate ⟨.contract, contractRoot⟩ library table file =
        .ok (file.services.flatMap fun service => [.sync, .async].map (contract file service))) ∧
      (∀ file, Generator.generate ⟨.implementation, implementationRoot⟩ library table file =
        .ok (file.services.flatMap fun service =>
          [.sync, .async].map (implementation file service))) ∧
      List.Forall₂
        (fun declared report =>
          report.Describes table declared.1 declared.2 (contract declared.1 declared.2)
            (implementation declared.1 declared.2) ∧
          (declared.2.HasReadableNames table declared.1.space →
            report.IsRead table declared.1 declared.2 (contract declared.1 declared.2)
              (implementation declared.1 declared.2)))
        (declaredServices files) (inspect files) := by
  intro table
  refine ⟨Template.standardLibrary,
    fun file service mode => Java.contractFile table file.space service mode contractRoot,
    fun file service mode => Java.implementationFile table file.space service mode implementationRoot,
    Template.standard_eq, fun file => Generator.generate_standard _ table file,
    fun file => Generator.generate_standard _ table file, ?_⟩
  rw [inspect_eq_map]
  apply List.forall₂_map_right_iff.mpr
  refine List.forall₂_same.mpr fun declared _ => ⟨?_, ?_⟩
  · exact ServiceReport.describes_ofService table declared.1 declared.2 _ _
  · intro readable
    exact ServiceReport.isRead_ofService readable _ _

theorem inspect_describes_generation_chat :
    let text : Schema.TypeName := ⟨"chat.Text"⟩
    let send : Method := ⟨"Send", text, text, true, false⟩
    let listen : Method := ⟨"Listen", text, text, false, true⟩
    let chat : File := ⟨"chat.proto", some "chat", ⟨some "com.chat", true, none⟩, [⟨"Text", []⟩], [],
      [⟨"Chat", [send, listen]⟩]⟩
    let table := NamespaceTable.ofFiles [chat]
    let properties := "java.util.Map<java.lang.String, java.lang.String> properties"
    let observer := "io.grpc.stub.StreamObserver<com.chat.Text> observer"
    ∃ library blocking async, Template.Library.standard = .ok library ∧
      Generator.generate ⟨.implementation, none⟩ library table chat = .ok [blocking, async] ∧
      Java.declaredClass? blocking.content = some "com.chat.ChatDefaultBlockingImpl" ∧
      Java.overriddenDeclarations blocking.content =
        ["java.util.Iterator<com.chat.Text> listen(com.chat.Text input)",
          "java.util.Iterator<com.chat.Text> listen(com.chat.Text input, " ++ properties ++ ")"] ∧
      Java.overriddenDeclarations async.content =
        ["io.grpc.stub.StreamObserver<com.chat.Text> send(" ++ observer ++ ")",
          "io.grpc.stub.StreamObserver<com.chat.Text> send(" ++ properties ++ ", " ++ observer ++
            ")",
          "void listen(com.chat.Text input, " ++ observer ++ ")",
          "void listen(com.chat.Text input, " ++ properties ++ ", " ++ observer ++ ")"] := by
  intro text send listen chat table properties observer
  have readable : (⟨"Chat", [send, listen]⟩ : Service).HasReadableNames table chat.space := by
    refine ⟨NamespaceTable.holdsLines_ofDeclarations (by decide), by decide, by decide, ?_⟩
    rw [List.forall_mem_cons, List.forall_mem_singleton]
    exact ⟨⟨by decide, by decide, by decide⟩, ⟨by decide, by decide, by decide⟩⟩
  obtain ⟨library, contract, implementation, standard, _, generated, described⟩ :=
    inspect_describes_generation [chat] none none
  obtain ⟨⟨_, read⟩, _⟩ := List.forall₂_cons.mp described
  have isRead := read readable
  have className := (List.forall₂_cons.mp isRead.implementations).1
  exact ⟨library, _, _, standard, generated chat, className, isRead.blocking.trans (by decide),
    isRead.async.trans (by decide)⟩

end ServiceBindings
