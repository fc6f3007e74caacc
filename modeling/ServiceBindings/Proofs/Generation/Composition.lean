import ServiceBindings.Proofs.Generation.Origin

/-!
# Runs composed of smaller ones

A run for two selections in a row is the run for the one followed by the run for the other.
A generator that is switched off takes its own files with it and no others.  The files of a
run stand schema file by schema file, and among these generator by generator and service by
service.
-/

namespace ServiceBindings

open Schema (File)

namespace Options

variable (options : Options)

/-- The options with one more kind of generator switched off. -/
def switchOff : GeneratorKind → Options
  | .contract => { options with contracts := false }
  | .implementation => { options with implementations := false }
  | .binding => { options with python := false }
  | .registration => { options with registrations := false }

theorem generates_switchOff (off kind : GeneratorKind) :
    (options.switchOff off).generates kind = (decide (kind ≠ off) && options.generates kind) := by
  cases off <;> cases kind <;>
    simp [switchOff, generates, generatesContracts, generatesImplementations,
      generatesRegistrations]

theorem rootOf_switchOff (off kind : GeneratorKind) :
    (options.switchOff off).rootOf kind = options.rootOf kind := by
  cases off <;> cases kind <;> rfl

theorem originsOfKind_switchOff (off : GeneratorKind) (file : File) (kind : GeneratorKind) :
    (options.switchOff off).originsOfKind file kind =
      (options.originsOfKind file kind).filter (·.kind ≠ off) := by
  by_cases isOff : kind = off
  · have noneLeft : (options.originsOfKind file kind).filter (·.kind ≠ off) = [] := by
      rw [List.filter_eq_nil_iff]
      intro origin member
      simp [options.kind_of_mem_originsOfKind member, isOff]
    rw [noneLeft, originsOfKind, generates_switchOff]
    simp [isOff]
  · have allLeft : (options.originsOfKind file kind).filter (·.kind ≠ off) =
        options.originsOfKind file kind := by
      rw [List.filter_eq_self]
      intro origin member
      simp [options.kind_of_mem_originsOfKind member, isOff]
    rw [allLeft, originsOfKind, originsOfKind, generates_switchOff]
    simp [isOff]

theorem originsOf_switchOff (off : GeneratorKind) (file : File) :
    (options.switchOff off).originsOf file =
      (options.originsOf file).filter (·.kind ≠ off) := by
  rw [originsOf, originsOf, List.filter_flatMap]
  exact List.flatMap_congr fun kind _ => options.originsOfKind_switchOff off file kind

theorem length_originsOfKind (file : File) (kind : GeneratorKind) :
    (options.originsOfKind file kind).length =
      if options.generates kind then kind.products.length * file.services.length else 0 := by
  rw [originsOfKind]
  split
  · simp only [List.length_flatMap, List.length_map]
    simp [Nat.mul_comm]
  · rfl

end Options

namespace Generation

variable (options : Options) (files : List File)

/-! ## Selections in a row -/

/-- The code for two selections in a row is the code for the one and then for the other, and
the first failure is that of the first selection that fails. -/
theorem runOptions_append (front back : List String) :
    runOptions options files (front ++ back) = (do
      let frontCode ← runOptions options files front
      let backCode ← runOptions options files back
      pure (frontCode ++ backCode)) := by
  simp only [runOptions, run_eq, acceptedSelection_append]
  cases acceptedSelection files front with
  | error error => rfl
  | ok frontFiles =>
      cases acceptedSelection files back with
      | error error => rfl
      | ok backFiles => exact congrArg Except.ok List.flatMap_append

/-! ## Fewer generators -/

theorem plan_switchOff (off : GeneratorKind) (selection : List String) :
    plan (options.switchOff off) files selection =
      (plan options files selection).map (·.filter (·.kind ≠ off)) := by
  rw [plan_eq, plan_eq]
  cases acceptedSelection files selection with
  | error error => rfl
  | ok selected =>
      have filtered : selected.flatMap (options.switchOff off).originsOf =
          (selected.flatMap options.originsOf).filter (·.kind ≠ off) := by
        rw [List.filter_flatMap]
        exact List.flatMap_congr fun file _ => options.originsOf_switchOff off file
      exact congrArg Except.ok filtered

/-- The files that are left when one more kind of generator is switched off. -/
theorem runWithOrigins_switchOff (off : GeneratorKind) (selection : List String) :
    runWithOrigins (options.switchOff off) files selection =
      (runWithOrigins options files selection).map (·.filter (·.1.kind ≠ off)) := by
  rw [runWithOrigins_eq, runWithOrigins_eq, plan_switchOff]
  cases plan options files selection with
  | error error => rfl
  | ok origins =>
      simp only [Except.map, List.filter_map, Function.comp_def, Options.rootOf_switchOff]

/-! ## The layout of a run -/

/-- The files of a run have the origins that are planned for the selected schema files. -/
theorem exists_selected_of_runWithOrigins {selection : List String}
    {produced : List (Origin × GeneratedFile)}
    (isRun : runWithOrigins options files selection = .ok produced) :
    ∃ selected, selection.mapM (select files) = .ok selected ∧
      produced.map (·.1) = selected.flatMap options.originsOf := by
  rw [runWithOrigins_eq, map_eq_ok_iff] at isRun
  rcases isRun with ⟨origins, planned, rfl⟩
  rw [plan_eq, map_eq_ok_iff] at planned
  rcases planned with ⟨selected, isAccepted, rfl⟩
  refine ⟨selected, (acceptedSelection_eq_ok_iff.mp isAccepted).2, ?_⟩
  simp only [List.map_map, Function.comp_def, List.map_id']

/-- How runs are composed.

* A run for two selections in a row succeeds exactly when the runs for both of them do, and
  yields the files of the one followed by the files of the other.
* A generator that is switched off takes exactly its own files away.
* A run yields, for every selected file, the contracts, default implementations, bindings and
  registrations of all its services, as far as they are switched on. -/
theorem runOptions_composition :
    (∀ front back code, runOptions options files (front ++ back) = .ok code ↔
      ∃ frontCode backCode, runOptions options files front = .ok frontCode ∧
        runOptions options files back = .ok backCode ∧ code = frontCode ++ backCode) ∧
    (∀ selection,
      runOptions options files selection =
        (runWithOrigins options files selection).map (·.map (·.2)) ∧
      ∀ off, runOptions (options.switchOff off) files selection =
        (runWithOrigins options files selection).map fun produced =>
          (produced.filter (·.1.kind ≠ off)).map (·.2)) ∧
    ∀ selection code, runOptions options files selection = .ok code →
      ∃ selected produced, selection.mapM (select files) = .ok selected ∧
        runWithOrigins options files selection = .ok produced ∧ code = produced.map (·.2) ∧
        (produced.map (·.1) = selected.flatMap fun file =>
          options.originsOfKind file .contract ++ (options.originsOfKind file .implementation ++
            (options.originsOfKind file .binding ++
              options.originsOfKind file .registration))) ∧
        ∀ file ∈ selected,
          (options.originsOfKind file .contract).length =
            (if options.generatesContracts then 2 * file.services.length else 0) ∧
          (options.originsOfKind file .implementation).length =
            (if options.generatesImplementations then 2 * file.services.length else 0) ∧
          (options.originsOfKind file .binding).length =
            (if options.python then file.services.length else 0) ∧
          (options.originsOfKind file .registration).length =
            (if options.generatesRegistrations then 2 * file.services.length else 0) := by
  refine ⟨?_, ?_, ?_⟩
  · intro front back code
    rw [runOptions_append, bind_eq_ok_iff]
    simp only [bind_eq_ok_iff]
    constructor
    · intro given
      rcases given with ⟨frontCode, frontRun, backCode, backRun, isCode⟩
      cases isCode
      exact ⟨frontCode, backCode, frontRun, backRun, rfl⟩
    · intro given
      rcases given with ⟨frontCode, backCode, frontRun, backRun, rfl⟩
      exact ⟨frontCode, frontRun, backCode, backRun, rfl⟩
  · intro selection
    refine ⟨runOptions_eq_map_runWithOrigins options files selection, ?_⟩
    intro off
    rw [runOptions_eq_map_runWithOrigins, runWithOrigins_switchOff]
    cases runWithOrigins options files selection with
    | error error => rfl
    | ok produced => rfl
  · intro selection code isRun
    rw [runOptions_eq_map_runWithOrigins, map_eq_ok_iff] at isRun
    rcases isRun with ⟨produced, isProduced, isCode⟩
    rcases exists_selected_of_runWithOrigins options files isProduced with
      ⟨selected, isSelected, origins⟩
    refine ⟨selected, produced, isSelected, isProduced, isCode, ?_, ?_⟩
    · rw [origins]
      apply List.flatMap_congr
      intro file _
      simp only [Options.originsOf, GeneratorKind.all, List.flatMap_cons, List.flatMap_nil,
        List.append_nil]
    · intro file _
      simp only [Options.length_originsOfKind, GeneratorKind.products, List.length_cons,
        List.length_nil, Options.generates, Nat.zero_add, Nat.reduceAdd, Nat.one_mul,
        and_self]

theorem runOptions_composition_orders :
    let file : File := ⟨"orders.proto", none, .default, [], [], [⟨"Orders", []⟩, ⟨"Prices", []⟩]⟩
    ∃ code, runOptions Options.default [file] ["orders.proto"] = .ok code ∧ code.length = 14 ∧
      runOptions Options.default [file] (["orders.proto"] ++ ["orders.proto"]) =
        .ok (code ++ code) := by
  intro file
  have isRun : runOptions Options.default [file] ["orders.proto"] = .ok _ :=
    run_eq_ok_iff.mpr ⟨rfl, [file], rfl, rfl⟩
  have composition := runOptions_composition Options.default [file]
  rcases composition.2.2 _ _ isRun with
    ⟨selected, produced, isSelected, _, isCode, origins, _⟩
  cases isSelected
  refine ⟨_, isRun, ?_, (composition.1 _ _ _).mpr ⟨_, _, isRun, isRun, rfl⟩⟩
  have count := congrArg List.length origins
  rw [List.length_map] at count
  rw [isCode, List.length_map, count]
  rfl

end Generation

end ServiceBindings
