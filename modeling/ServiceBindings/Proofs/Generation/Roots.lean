import ServiceBindings.Proofs.Generation.Origin
import ServiceBindings.Proofs.Path

/-!
# Root directories

The root directory of a generator is put in front of the paths of its files.  It has no other
influence: runs whose options differ in root directories only fail in the same way or generate
the same contents in the same order.
-/

namespace ServiceBindings

open Schema (File)

theorem Path.join_root (root : String) (segments : List String) :
    join (root :: segments) = join [root, join ("" :: segments)] := by
  rw [join_cons, join_empty_cons]

/-- A file below a root directory, if there is one. -/
def GeneratedFile.below (root : Option String) (file : GeneratedFile) : GeneratedFile :=
  { file with path := Path.join [root.getD "", file.path] }

/-- A root directory is put in front of the path, and the content does not depend on it. -/
theorem Origin.generated_eq_below (origin : Origin) (root : Option String)
    (table : NamespaceTable) :
    origin.generated root table = (origin.generated none table).below root := by
  rcases origin with ⟨file, service, product⟩
  cases product with
  | contract mode =>
      simp only [generated, Java.contractFile, Java.sourcePath, GeneratedFile.below,
        Option.getD_none, ← Path.join_root]
  | implementation mode =>
      simp only [generated, Java.implementationFile, Java.sourcePath, GeneratedFile.below,
        Option.getD_none, ← Path.join_root]
  | binding =>
      simp only [generated, Python.bindingFile, GeneratedFile.below, Option.getD_none,
        ← Path.join_root]
  | registration mode =>
      simp only [generated, Java.registration, GeneratedFile.below, Option.getD_none,
        ← Path.join_root]

namespace Options

/-- The options with the same switches and no root directories. -/
def withoutRoots (options : Options) : Options :=
  { options with
    contractRoot := none, implementationRoot := none, registrationRoot := none,
    pythonRoot := none }

theorem originsOf_withoutRoots (options : Options) (file : File) :
    options.withoutRoots.originsOf file = options.originsOf file := by
  have sameKinds : options.withoutRoots.generates = options.generates := by
    funext kind
    cases kind <;> rfl
  have sameOrigins :
      options.withoutRoots.originsOfKind file = options.originsOfKind file := by
    funext kind
    rw [originsOfKind, originsOfKind, sameKinds]
  rw [originsOf, originsOf, sameOrigins]

theorem rootOf_withoutRoots (options : Options) (kind : GeneratorKind) :
    options.withoutRoots.rootOf kind = none := by
  cases kind <;> rfl

end Options

namespace Generation

theorem plan_withoutRoots (options : Options) (files : List File) (selection : List String) :
    plan options.withoutRoots files selection = plan options files selection := by
  simp only [plan_eq, funext options.originsOf_withoutRoots]

/-- The code that options ask for is the code without root directories, every file below the
root directory of the generator that generates it. -/
theorem runOptions_eq_map_below (options : Options) (files : List File)
    (selection : List String) :
    runOptions options files selection =
      (runWithOrigins options.withoutRoots files selection).map
        (·.map fun (origin, file) => file.below (options.rootOf origin.kind)) := by
  rw [runOptions_eq_map_runWithOrigins, runWithOrigins_eq, runWithOrigins_eq, plan_withoutRoots]
  cases plan options files selection with
  | error error => simp only [Except.map]
  | ok origins =>
      have moved : ∀ origin : Origin,
          origin.generated (options.rootOf origin.kind) (NamespaceTable.ofFiles files) =
            (origin.generated (options.withoutRoots.rootOf origin.kind)
              (NamespaceTable.ofFiles files)).below (options.rootOf origin.kind) := by
        intro origin
        rw [Options.rootOf_withoutRoots]
        exact origin.generated_eq_below _ _
      simp only [Except.map, List.map_map, Function.comp_def, moved]

/-- Root directories move files and change nothing else.  If options agree on all switches,
their runs fail with the same error, or they generate files with the same contents in the same
order.  The path of every file is then its path in the run without root directories, joined to
the root directory of the generator that generates it. -/
theorem runOptions_of_same_switches {left right : Options}
    (sameSwitches : left.withoutRoots = right.withoutRoots) (files : List File)
    (selection : List String) :
    (∃ error, runOptions left files selection = .error error ∧
        runOptions right files selection = .error error) ∨
      ∃ leftCode rightCode produced,
        runOptions left files selection = .ok leftCode ∧
        runOptions right files selection = .ok rightCode ∧
        leftCode.map (·.content) = rightCode.map (·.content) ∧
        runWithOrigins left.withoutRoots files selection = .ok produced ∧
        runOptions left.withoutRoots files selection = .ok (produced.map (·.2)) ∧
        (leftCode.map (·.path) = produced.map fun (origin, file) =>
          Path.join [(left.rootOf origin.kind).getD "", file.path]) ∧
        (rightCode.map (·.path) = produced.map fun (origin, file) =>
          Path.join [(right.rootOf origin.kind).getD "", file.path]) := by
  rw [runOptions_eq_map_below left, runOptions_eq_map_below right, ← sameSwitches,
    runOptions_eq_map_runWithOrigins left.withoutRoots]
  cases runWithOrigins left.withoutRoots files selection with
  | error error => exact .inl ⟨error, rfl, rfl⟩
  | ok produced =>
      refine .inr ⟨_, _, produced, rfl, rfl, ?_, rfl, rfl, ?_, ?_⟩
      · simp only [List.map_map, Function.comp_def, GeneratedFile.below]
      · simp only [List.map_map, Function.comp_def, GeneratedFile.below]
      · simp only [List.map_map, Function.comp_def, GeneratedFile.below]

theorem runOptions_of_same_switches_orders :
    let left := { Options.default with contractRoot := some "api//", pythonRoot := some "/" }
    let right := { Options.default with registrationRoot := some "res" }
    let file : File := ⟨"shop/orders.proto", none, .default, [], [], [⟨"Orders", []⟩]⟩
    left.withoutRoots = right.withoutRoots ∧
      ∃ leftCode rightCode, runOptions left [file] ["shop/orders.proto"] = .ok leftCode ∧
        runOptions right [file] ["shop/orders.proto"] = .ok rightCode ∧
        leftCode.map (·.content) = rightCode.map (·.content) := by
  intro left right file
  have sameSwitches : left.withoutRoots = right.withoutRoots := rfl
  have leftRun : runOptions left [file] ["shop/orders.proto"] = .ok _ :=
    run_eq_ok_iff.mpr ⟨rfl, [file], rfl, rfl⟩
  refine ⟨sameSwitches, ?_⟩
  rcases runOptions_of_same_switches sameSwitches [file] ["shop/orders.proto"] with
    ⟨error, leftError, _⟩ | ⟨leftCode, rightCode, _, isLeft, isRight, sameContents, _⟩
  · rw [leftRun] at leftError
    cases leftError
  · exact ⟨leftCode, rightCode, isLeft, isRight, sameContents⟩

end Generation

end ServiceBindings
