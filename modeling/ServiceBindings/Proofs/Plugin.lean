import ServiceBindings.Plugin
import ServiceBindings.Proofs.Descriptor
import ServiceBindings.Proofs.Generation.Checks
import ServiceBindings.Proofs.Generation.Paths

/-!
# File names in a response

Nothing keeps a response from naming a file twice.  It does so if and only if two of the
services to generate code for clash, which they can do within one schema file.
-/

namespace ServiceBindings.Plugin

open Generation (Clash selectedFiles servicesOf)
open Schema (File)

namespace Request

/-- The options of a request. -/
def options (request : Request) : Options := Options.parse (request.parameter?.getD "")

theorem generate_of_answered {request : Request} (answered : request.respond.error? = none) :
    request.generate = .ok request.respond.files := by
  rw [respond] at answered ⊢
  cases generated : request.generate with
  | ok code => rfl
  | error error =>
      rw [generated] at answered
      cases answered

theorem generate_eq_ok_iff {request : Request} {code : GeneratedCode} :
    request.generate = .ok code ↔
      ∃ files, Descriptor.toSchemas request.descriptors = .ok files ∧
        Generation.runOptions request.options files request.selection = .ok code := by
  rw [generate, bind_eq_ok_iff]
  rfl

theorem respond_eq {request : Request} {files selected : List File}
    (ingested : Descriptor.toSchemas request.descriptors = .ok files)
    (accepted : Generation.checkFiles [] files = .ok ())
    (isSelected : request.selection.mapM (Generation.select files) = .ok selected) :
    request.respond = ⟨none, selected.flatMap
      (Generation.filesOf (Generator.ofOptions request.options) (NamespaceTable.ofFiles files))⟩ := by
  have generated : request.generate = .ok (selected.flatMap
      (Generation.filesOf (Generator.ofOptions request.options)
        (NamespaceTable.ofFiles files))) :=
    generate_eq_ok_iff.mpr ⟨files, ingested,
      Generation.run_eq_ok_iff.mpr ⟨accepted, selected, isSelected, rfl⟩⟩
  rw [respond, generated]

theorem isPlain_of_toSchemas {request : Request} {files : List File}
    (plain : ∀ descriptor ∈ request.descriptors, ∀ service ∈ descriptor.services, ∀ name,
      service.name? = some name → Identifier.IsPlain name)
    (ingested : Descriptor.toSchemas request.descriptors = .ok files) {file : File}
    (member : file ∈ files) :
    ∀ service ∈ file.services, Identifier.IsPlain service.name := by
  intro service serviceMember
  rcases exists_of_mem_mapM ingested member with ⟨descriptor, descriptorMember, fileIngested⟩
  rcases Descriptor.exists_service_of_toSchema fileIngested serviceMember with
    ⟨source, sourceMember, isName⟩
  exact plain descriptor descriptorMember source sourceMember service.name isName

/-- A response without an error names no file twice if and only if no two of the services to
generate code for clash. -/
theorem nodup_path_respond_iff (request : Request)
    (plain : ∀ descriptor ∈ request.descriptors, ∀ service ∈ descriptor.services, ∀ name,
      service.name? = some name → Identifier.IsPlain name)
    (answered : request.respond.error? = none) :
    ∃ files, Descriptor.toSchemas request.descriptors = .ok files ∧
      ((request.respond.files.map (·.path)).Nodup ↔
        (servicesOf (selectedFiles files request.selection)).Pairwise fun left right =>
          ¬Clash (Generator.ofOptions request.options) left right) := by
  rcases generate_eq_ok_iff.mp (generate_of_answered answered) with ⟨files, ingested, generated⟩
  rcases Generation.run_eq_ok_iff.mp generated with ⟨_, selected, isSelected, isCode⟩
  have isSelection := Generation.eq_selectedFiles_of_mapM isSelected
  subst isSelection
  refine ⟨files, ingested, ?_⟩
  rw [isCode]
  apply Generation.nodup_path_iff (Generator.pairwise_kind_ofOptions request.options)
  intro source member
  rcases List.mem_flatMap.mp member with ⟨file, fileMember, inServices⟩
  rcases List.mem_map.mp inServices with ⟨service, serviceMember, rfl⟩
  exact isPlain_of_toSchemas plain ingested (Generation.mem_of_mem_selectedFiles fileMember)
    service serviceMember

/-- A schema file with services that have no methods. -/
def fileOfServices (services : List String) : File :=
  ⟨"a.proto", none, .default, [], [], services.map fun name => ⟨name, []⟩⟩

/-- A request for the code of one file with services that have no methods. -/
def ofServices (services : List String) : Request where
  selection := ["a.proto"]
  parameter? := none
  descriptors :=
    [⟨some "a.proto", none, none, [], [], services.map fun name => ⟨some name, []⟩⟩]

theorem nodup_path_respond_iff_order_price :
    ∃ files, Descriptor.toSchemas (ofServices ["Order", "Price"]).descriptors = .ok files ∧
      (((ofServices ["Order", "Price"]).respond.files.map (·.path)).Nodup ↔
        (servicesOf (selectedFiles files ["a.proto"])).Pairwise fun left right =>
          ¬Clash (Generator.ofOptions (ofServices ["Order", "Price"]).options) left right) := by
  apply nodup_path_respond_iff (ofServices ["Order", "Price"])
  · intro descriptor descriptorMember service serviceMember name isName
    rw [List.mem_singleton.mp descriptorMember] at serviceMember
    simp only [List.map_cons, List.map_nil, List.mem_cons, List.not_mem_nil, or_false]
      at serviceMember
    rcases serviceMember with isOrder | isPrice
    · subst isOrder
      cases isName
      exact ⟨by decide, by decide⟩
    · subst isPrice
      cases isName
      exact ⟨by decide, by decide⟩
  · have ingested : Descriptor.toSchemas (ofServices ["Order", "Price"]).descriptors =
        .ok [fileOfServices ["Order", "Price"]] := rfl
    have isSelected : ["a.proto"].mapM
        (Generation.select [fileOfServices ["Order", "Price"]]) =
          .ok [fileOfServices ["Order", "Price"]] := rfl
    rw [respond_eq ingested rfl isSelected]

/-- A service whose name is that of another one after `Async` makes a response name the file
of a contract twice. -/
theorem respond_names_file_twice :
    (ofServices ["X", "AsyncX"]).respond.error? = none ∧
      ¬((ofServices ["X", "AsyncX"]).respond.files.map (·.path)).Nodup := by
  have ingested : Descriptor.toSchemas (ofServices ["X", "AsyncX"]).descriptors =
      .ok [fileOfServices ["X", "AsyncX"]] := rfl
  have isSelected : ["a.proto"].mapM (Generation.select [fileOfServices ["X", "AsyncX"]]) =
      .ok [fileOfServices ["X", "AsyncX"]] := rfl
  have plain : ∀ source ∈ servicesOf [fileOfServices ["X", "AsyncX"]],
      Identifier.IsPlain source.2.name := by
    intro source member
    have isSource : source.2.name = "X" ∨ source.2.name = "AsyncX" := by
      simp only [servicesOf, fileOfServices, List.flatMap_cons, List.flatMap_nil, List.map_cons,
        List.map_nil, List.append_nil, List.mem_cons, List.not_mem_nil, or_false] at member
      rcases member with isX | isAsyncX
      · exact .inl (by rw [isX])
      · exact .inr (by rw [isAsyncX])
    rcases isSource with isX | isAsyncX
    · rw [isX]
      exact ⟨by decide, by decide⟩
    · rw [isAsyncX]
      exact ⟨by decide, by decide⟩
  rw [respond_eq ingested rfl isSelected]
  refine ⟨rfl, ?_⟩
  rw [Generation.nodup_path_iff (Generator.pairwise_kind_ofOptions _) _ plain]
  intro separate
  have notClash : ¬Clash (Generator.ofOptions (ofServices ["X", "AsyncX"]).options)
      (fileOfServices ["X", "AsyncX"], ⟨"X", []⟩)
      (fileOfServices ["X", "AsyncX"], ⟨"AsyncX", []⟩) :=
    (List.pairwise_cons.mp separate).1 _ (List.mem_singleton.mpr rfl)
  exact notClash ⟨⟨.contract, none⟩, by decide, rfl, .inr (.inr rfl)⟩

end Request

end ServiceBindings.Plugin
