import Mathlib.Data.List.Pairwise
import ServiceBindings.Proofs.Artifact.Collector
import ServiceBindings.Proofs.Generation.Checks
import ServiceBindings.Proofs.Generation.Paths
import ServiceBindings.Proofs.Schema.Validation

/-!
# Collisions within a schema file

All services of a schema file have the same directories, so whether their files collide is
seen from their names alone: a name must not be another one after `Async`, and different names
must stay different in snake_case.
-/

namespace ServiceBindings.Generation

open Artifact (Collector)
open Schema (File Service)

/-- Whether some files for two services of one schema file have one path. -/
def ShareFile (left right : Service) : Prop :=
  left.name = "Async" ++ right.name ∨ right.name = "Async" ++ left.name ∨
    Identifier.snakeCase left.name = Identifier.snakeCase right.name

theorem ShareFile.symm {left right : Service} (share : ShareFile left right) :
    ShareFile right left := by
  rcases share with leftIsAsync | rightIsAsync | sameSnakeCase
  · exact .inr (.inl leftIsAsync)
  · exact .inl rightIsAsync
  · exact .inr (.inr sameSnakeCase.symm)

theorem ShareFile.of_shareContract {left right : Service}
    (share : Java.ShareContract left.name right.name) : ShareFile left right := by
  rcases share with same | leftIsAsync | rightIsAsync
  · exact .inr (.inr (congrArg Identifier.snakeCase same))
  · exact .inl leftIsAsync
  · exact .inr (.inl rightIsAsync)

/-- With all generators, the services of one schema file clash if they share a file. -/
theorem clash_default_iff (file : File) (left right : Service) :
    Clash (Generator.ofOptions .default) (file, left) (file, right) ↔ ShareFile left right := by
  have allRun : ∀ kind, ⟨kind, none⟩ ∈ Generator.ofOptions .default := by
    intro kind
    cases kind <;> decide
  constructor
  · intro given
    rcases given with ⟨generator, _, clash⟩
    rcases generator with ⟨kind, root⟩
    cases kind with
    | contract => exact .of_shareContract clash.2
    | implementation => exact .inr (.inr (congrArg Identifier.snakeCase clash.2))
    | binding => exact .inr (.inr clash.2)
    | registration => exact .of_shareContract clash.2
  · intro share
    rcases share with leftIsAsync | rightIsAsync | sameSnakeCase
    · exact ⟨⟨.contract, none⟩, allRun _, rfl, .inr (.inl leftIsAsync)⟩
    · exact ⟨⟨.contract, none⟩, allRun _, rfl, .inr (.inr rightIsAsync)⟩
    · exact ⟨⟨.binding, none⟩, allRun _, rfl, sameSnakeCase⟩

theorem ne_async_append (name : String) : name ≠ "Async" ++ name := by
  intro same
  have lengths := congrArg String.length same
  simp at lengths

/-- Whether the names of services keep all files for them apart. -/
structure HaveSeparateFiles (services : List Service) : Prop where
  notAsync : ¬∃ left ∈ services, ∃ right ∈ services, right.name = "Async" ++ left.name
  snakeCase : ¬∃ left ∈ services, ∃ right ∈ services, left ≠ right ∧
    Identifier.snakeCase left.name = Identifier.snakeCase right.name

theorem pairwise_not_shareFile_iff {services : List Service} (distinct : services.Nodup) :
    (services.Pairwise fun left right => ¬ShareFile left right) ↔
      HaveSeparateFiles services := by
  constructor
  · intro separate
    have symmetric : Std.Symm fun left right => ¬ShareFile left right :=
      ⟨fun left right apart share => apart share.symm⟩
    have apart := separate.forall
    constructor
    · intro given
      rcases given with ⟨left, leftMember, right, rightMember, rightIsAsync⟩
      by_cases same : left = right
      · subst same
        exact ne_async_append left.name rightIsAsync
      · exact apart leftMember rightMember same (.inr (.inl rightIsAsync))
    · intro given
      rcases given with ⟨left, leftMember, right, rightMember, different, sameSnakeCase⟩
      exact apart leftMember rightMember different (.inr (.inr sameSnakeCase))
  · intro given
    apply distinct.pairwise_of_forall_ne
    intro left leftMember right rightMember different share
    rcases share with leftIsAsync | rightIsAsync | sameSnakeCase
    · exact given.notAsync ⟨right, rightMember, left, leftMember, leftIsAsync⟩
    · exact given.notAsync ⟨left, leftMember, right, rightMember, rightIsAsync⟩
    · exact given.snakeCase ⟨left, leftMember, right, rightMember, different, sameSnakeCase⟩

theorem servicesOf_singleton (file : File) :
    servicesOf [file] = file.services.map (file, ·) :=
  List.flatMap_singleton _ _

theorem nodup_path_filesOf_default_iff (table : NamespaceTable) {file : File}
    (valid : file.validate = .ok ()) (absent : ∀ service ∈ file.services,
      '/' ∉ service.name.toList) :
    ((filesOf (Generator.ofOptions .default) table file).map (·.path)).Nodup ↔
      HaveSeparateFiles file.services := by
  have services := servicesOf_singleton file
  have sourceAbsent : ∀ source ∈ servicesOf [file], '/' ∉ source.2.name.toList := by
    rw [services, List.forall_mem_map]
    exact absent
  have separable : ∀ left ∈ servicesOf [file], ∀ right ∈ servicesOf [file],
      Generator.AreSeparable left right := by
    rw [services, List.forall_mem_map]
    intro left _
    rw [List.forall_mem_map]
    exact fun right _ => .inl rfl
  have differ := Generator.pairwise_kind_ofOptions .default
  have distinct : file.services.Nodup := (File.nodup_name_of_validate valid).of_map
  rw [← List.flatMap_singleton (filesOf (Generator.ofOptions .default) table) file,
    nodup_path_iff_of_separable differ table sourceAbsent separable, services, List.pairwise_map]
  simp only [clash_default_iff]
  exact pairwise_not_shareFile_iff distinct

/-- All generators together generate the files for one schema file at distinct paths if and
only if no service has the name of another one after `Async` and no two services have one name
in snake_case.  No path is then refused as taken where the files are collected. -/
theorem nodup_path_runOptions_iff {files : List File} (accepted : AreAccepted files)
    {file : File} (member : file ∈ files)
    (absent : ∀ service ∈ file.services, '/' ∉ service.name.toList) :
    ∃ code, runOptions .default files [file.name] = .ok code ∧
      ((code.map (·.path)).Nodup ↔
        (¬∃ left ∈ file.services, ∃ right ∈ file.services,
          right.name = "Async" ++ left.name) ∧
        ¬∃ left ∈ file.services, ∃ right ∈ file.services, left ≠ right ∧
          Identifier.snakeCase left.name = Identifier.snakeCase right.name) ∧
      ((code.map (·.path)).Nodup → ∀ path,
        .duplicate path ∉ Collector.empty.errors code ∧
          (Collector.empty.addCode code).build ≠ .error (.duplicate path)) := by
  have checked := checkFiles_of_areAccepted accepted
  have isSelected : [file.name].mapM (select files) = .ok [file] := by
    rw [mapM_cons_eq_ok_iff]
    exact ⟨file, [], (select_eq_ok_iff accepted.distinct _ _).mpr ⟨member, rfl⟩, rfl, rfl⟩
  refine ⟨_, run_eq_ok_iff.mpr ⟨checked, [file], isSelected, rfl⟩, ?_, ?_⟩
  · rw [List.flatMap_singleton,
      nodup_path_filesOf_default_iff _ (accepted.valid file member) absent]
    exact ⟨fun separate => ⟨separate.notAsync, separate.snakeCase⟩,
      fun given => ⟨given.1, given.2⟩⟩
  · intro distinct path
    have notTaken : .duplicate path ∉ Collector.empty.errors _ :=
      Collector.duplicate_notMem_errors distinct (fun _ _ => rfl) path
    exact ⟨notTaken, fun refused => notTaken (Collector.mem_errors_of_build refused)⟩

theorem nodup_path_runOptions_iff_orders :
    let separate : File :=
      ⟨"a.proto", none, .default, [], [], [⟨"Order", []⟩, ⟨"Price", []⟩]⟩
    let colliding : File :=
      ⟨"b.proto", none, .default, [], [], [⟨"Order", []⟩, ⟨"AsyncOrder", []⟩]⟩
    let files := [separate, colliding]
    (∃ code, runOptions .default files ["a.proto"] = .ok code ∧
      ∀ path, (Collector.empty.addCode code).build ≠ .error (.duplicate path)) ∧
    ∃ code, runOptions .default files ["b.proto"] = .ok code ∧ ¬(code.map (·.path)).Nodup := by
  intro separate colliding files
  have accepted : AreAccepted files := by
    rw [areAccepted_cons, areAccepted_cons]
    exact ⟨rfl, by decide, rfl, by simp, areAccepted_nil⟩
  have separateMember : separate ∈ files := by simp [files]
  have collidingMember : colliding ∈ files := by simp [files]
  constructor
  · rcases nodup_path_runOptions_iff accepted separateMember (by decide) with
      ⟨code, isRun, isDistinct, collected⟩
    have distinct := isDistinct.mpr ⟨by decide, by decide⟩
    exact ⟨code, isRun, fun path => (collected distinct path).2⟩
  · rcases nodup_path_runOptions_iff accepted collidingMember (by decide) with
      ⟨code, isRun, isDistinct, _⟩
    refine ⟨code, isRun, fun distinct => ?_⟩
    exact (isDistinct.mp distinct).1 (by decide)

end ServiceBindings.Generation
