import Mathlib.Data.List.Induction
import ServiceBindings.Proofs.Generation.Checks
import ServiceBindings.Proofs.Generation.Rendered
import ServiceBindings.Proofs.Schema.Validation

/-!
# How a run ends

A run reports the first schema file that is malformed or repeats a name.  If there is none, it
reports the first selected name that no schema file has.  Nothing else can go wrong.
-/

namespace ServiceBindings.Generation

open Schema (File)

/-! ## Refused files -/

/-- Whether a schema file is refused after earlier ones: it is malformed, or one of them has
its name. -/
def IsRefused (earlier : List File) (file : File) : Prop :=
  file.validate ≠ .ok () ∨ file.name ∈ earlier.map (·.name)

/-- The error about a schema file that is refused. -/
def refusal (file : File) : GenerationError :=
  match file.validate with
  | .error error => error
  | .ok () => .malformedSchema file.name "file supplied more than once"

/-- Files are accepted if none of them is refused after the ones before it. -/
theorem areAccepted_iff_forall_not_isRefused (files : List File) :
    AreAccepted files ↔ ∀ front file back, files = front ++ file :: back →
      ¬IsRefused front file := by
  constructor
  · intro accepted front file back split refused
    subst split
    rcases refused with malformed | repeated
    · exact malformed (accepted.valid file (by simp))
    · have distinct := accepted.distinct
      rw [List.map_append, List.map_cons] at distinct
      exact List.disjoint_of_nodup_append distinct repeated (by simp)
  · intro none
    induction files using List.reverseRecOn with
    | nil => exact areAccepted_nil
    | append_singleton front last ih =>
        have frontAccepted : AreAccepted front := by
          apply ih
          intro before file back split
          apply none before file (back ++ [last])
          rw [split, List.append_assoc, List.cons_append]
        have lastAccepted := none front last [] rfl
        rw [IsRefused, not_or, not_not] at lastAccepted
        rcases lastAccepted with ⟨lastValid, newName⟩
        constructor
        · intro file member
          rcases List.mem_append.mp member with inFront | isLast
          · exact frontAccepted.valid file inFront
          · rw [List.mem_singleton.mp isLast]
            exact lastValid
        · rw [List.map_append, List.map_singleton, List.nodup_append']
          refine ⟨frontAccepted.distinct, List.nodup_singleton _, ?_⟩
          rw [List.disjoint_singleton]
          exact newName

/-- Accepted files leave nothing but their names to the checks of what follows. -/
theorem checkFiles_append {before : List File} (accepted : AreAccepted before)
    (earlier : List String) (new : ∀ file ∈ before, file.name ∉ earlier) (rest : List File) :
    checkFiles earlier (before ++ rest) =
      checkFiles ((before.map (·.name)).reverse ++ earlier) rest := by
  induction before generalizing earlier with
  | nil => rfl
  | cons file others ih =>
      rcases (areAccepted_cons file others).mp accepted with
        ⟨fileValid, otherNames, othersAccepted⟩
      have isNew : file.name ∉ earlier := new file (by simp)
      have othersNew : ∀ other ∈ others, other.name ∉ file.name :: earlier := by
        intro other member
        rw [List.mem_cons, not_or]
        exact ⟨otherNames other member, new other (by simp [member])⟩
      rw [List.cons_append, checkFiles, fileValid]
      simp only [List.contains_eq_mem, isNew, decide_false, Bool.false_eq_true, if_false]
      rw [ih othersAccepted (file.name :: earlier) othersNew, List.map_cons, List.reverse_cons,
        List.append_assoc, List.singleton_append]

theorem checkFiles_cons_of_refused {earlier : List String} {file : File}
    (refused : file.validate ≠ .ok () ∨ file.name ∈ earlier) (rest : List File) :
    checkFiles earlier (file :: rest) = .error (refusal file) := by
  rw [checkFiles, refusal]
  cases validated : file.validate with
  | error error => rfl
  | ok accepted =>
      have isEarlier : file.name ∈ earlier := refused.resolve_left (not_not_intro validated)
      simp [isEarlier]

/-- The first file that is refused is the one that is reported. -/
theorem checkFiles_of_first_refused {before : List File} {file : File}
    (accepted : AreAccepted before) (refused : IsRefused before file) (after : List File) :
    checkFiles [] (before ++ file :: after) = .error (refusal file) := by
  rw [checkFiles_append accepted [] (by simp)]
  apply checkFiles_cons_of_refused
  simpa [IsRefused] using refused

theorem isSchemaError_of_checkFiles {earlier : List String} {files : List File}
    {error : GenerationError} (failed : checkFiles earlier files = .error error) :
    error.isSchemaError = true := by
  induction files generalizing earlier with
  | nil => cases failed
  | cons file rest ih =>
      rw [checkFiles] at failed
      cases validated : file.validate with
      | error invalid =>
          rw [validated] at failed
          cases failed
          exact File.isSchemaError_of_validate validated
      | ok accepted =>
          rw [validated] at failed
          simp only at failed
          split at failed
          · cases failed
            rfl
          · exact ih failed

/-! ## Runs -/

theorem run_of_select_error {files : List File} {selection : List String}
    {error : GenerationError} (accepted : AreAccepted files)
    (failed : selection.mapM (select files) = .error error) (generators : List Generator) :
    run generators files selection = .error error := by
  rw [run_eq, acceptedSelection_of_areAccepted accepted, failed]
  rfl

/-- A run of accepted files succeeds or reports a selected name that none of them has. -/
theorem run_cases_of_areAccepted {files : List File} (accepted : AreAccepted files)
    (generators : List Generator) (selection : List String) :
    (∃ code, run generators files selection = .ok code) ∨
      ∃ name ∈ selection, name ∉ files.map (·.name) ∧
        run generators files selection = .error (.unknownFile name) := by
  rcases mapM_select_cases files selection with
    ⟨selected, isSelected⟩ | ⟨name, member, absent, unknown⟩
  · have checked := checkFiles_of_areAccepted accepted
    exact .inl ⟨_, run_eq_ok_iff.mpr ⟨checked, selected, isSelected, rfl⟩⟩
  · refine .inr ⟨name, member, ?_, run_of_select_error accepted unknown generators⟩
    intro isName
    rcases List.mem_map.mp isName with ⟨file, fileMember, sameName⟩
    exact absent file fileMember sameName

theorem exists_run_of_areAccepted {files : List File} {selection : List String}
    (accepted : AreAccepted files) (areKnown : ∀ name ∈ selection, name ∈ files.map (·.name))
    (generators : List Generator) : ∃ code, run generators files selection = .ok code := by
  rcases run_cases_of_areAccepted accepted generators selection with
    succeeds | ⟨name, member, unknown, _⟩
  · exact succeeds
  · exact absurd (areKnown name member) unknown

theorem run_ne_malformedSchema {files : List File} (accepted : AreAccepted files)
    (generators : List Generator) (selection : List String) (name reason : String) :
    run generators files selection ≠ .error (.malformedSchema name reason) := by
  intro failed
  rcases run_cases_of_areAccepted accepted generators selection with
    ⟨code, succeeds⟩ | ⟨unknown, _, _, isError⟩
  · rw [succeeds] at failed
    cases failed
  · rw [isError] at failed
    cases failed

theorem run_of_checkFiles_error {files : List File} {error : GenerationError}
    (failed : checkFiles [] files = .error error) (generators : List Generator)
    (selection : List String) : run generators files selection = .error error := by
  rw [run_eq, acceptedSelection, failed]
  rfl

/-- Whatever stops a run is a schema file or a name of one, and never a template. -/
theorem isSchemaError_of_run {generators : List Generator} {files : List File}
    {selection : List String} {error : GenerationError}
    (failed : run generators files selection = .error error) : error.isSchemaError = true := by
  rw [run_eq, acceptedSelection] at failed
  cases checked : checkFiles [] files with
  | error checkError =>
      rw [checked] at failed
      cases failed
      exact isSchemaError_of_checkFiles checked
  | ok accepted =>
      rw [checked] at failed
      rcases mapM_select_cases files selection with ⟨selected, isSelected⟩ | ⟨name, _, _, unknown⟩
      · rw [isSelected] at failed
        cases failed
      · rw [unknown] at failed
        cases failed
        rfl

/-- How a run ends.

* The first schema file that is refused after the ones before it is reported.
* If no schema file is refused, the first selected name that no schema file has is reported,
  and if there is none, the run succeeds.
* No run fails on a template. -/
theorem runOptions_outcome (options : Options) (files : List File) (selection : List String) :
    (∀ before file after, files = before ++ file :: after →
      (∀ front other back, before = front ++ other :: back → ¬IsRefused front other) →
      IsRefused before file →
      runOptions options files selection = .error (refusal file)) ∧
    ((∀ before file after, files = before ++ file :: after → ¬IsRefused before file) →
      (∀ known name rest, selection = known ++ name :: rest →
        (∀ earlier ∈ known, earlier ∈ files.map (·.name)) → name ∉ files.map (·.name) →
        runOptions options files selection = .error (.unknownFile name)) ∧
      ((∀ name ∈ selection, name ∈ files.map (·.name)) →
        ∃ code, runOptions options files selection = .ok code)) ∧
    ∀ template message,
      runOptions options files selection ≠ .error (.template template message) := by
  refine ⟨?_, ?_, ?_⟩
  · intro before file after split noneBefore refused
    subst split
    have accepted := (areAccepted_iff_forall_not_isRefused before).mpr noneBefore
    exact run_of_checkFiles_error (checkFiles_of_first_refused accepted refused after) _ _
  · intro none
    have accepted := (areAccepted_iff_forall_not_isRefused files).mpr none
    constructor
    · intro known name rest split areKnown isUnknown
      subst split
      have failed : (known ++ name :: rest).mapM (select files) = .error (.unknownFile name) :=
        mapM_append_cons_eq_error
          (fun earlier member => select_ok_of_mem (areKnown earlier member))
          (select_of_notMem isUnknown) rest
      exact run_of_select_error accepted failed _
    · intro areKnown
      exact exists_run_of_areAccepted accepted areKnown _
  · intro template message failed
    have isSchemaError := isSchemaError_of_run failed
    cases isSchemaError

theorem runOptions_outcome_orders :
    let orders : File := ⟨"orders.proto", none, .default, [], [], [⟨"Orders", []⟩]⟩
    let unnamed : File := ⟨"prices.proto", none, .default, [], [], [⟨"", []⟩]⟩
    runOptions .default [orders, unnamed, orders] ["orders.proto"] =
        .error (.malformedSchema "prices.proto" "service without a name") ∧
      runOptions .default [orders, orders, unnamed] ["orders.proto"] =
        .error (.malformedSchema "orders.proto" "file supplied more than once") ∧
      runOptions .default [orders] ["orders.proto", "a.proto", "b.proto"] =
        .error (.unknownFile "a.proto") ∧
      ∃ code, runOptions .default [orders] ["orders.proto"] = .ok code := by
  intro orders unnamed
  have accepted : AreAccepted [orders] := (areAccepted_cons orders []).mpr
    ⟨rfl, by simp, areAccepted_nil⟩
  have noneRefused := (areAccepted_iff_forall_not_isRefused [orders]).mp accepted
  have isNamed : orders.name = "orders.proto" := rfl
  refine ⟨?_, ?_, ?_, ?_⟩
  · have isMalformed : IsRefused [orders] unnamed := by
      refine .inl ?_
      intro valid
      cases valid
    exact (runOptions_outcome .default [orders, unnamed, orders] ["orders.proto"]).1
      [orders] unnamed [orders] rfl noneRefused isMalformed
  · have isRepeated : IsRefused [orders] orders := .inr (by simp)
    exact (runOptions_outcome .default [orders, orders, unnamed] ["orders.proto"]).1
      [orders] orders [unnamed] rfl noneRefused isRepeated
  · exact ((runOptions_outcome .default [orders] _).2.1 noneRefused).1 ["orders.proto"] "a.proto"
      ["b.proto"] rfl (by simp [isNamed]) (by simp [isNamed])
  · exact ((runOptions_outcome .default [orders] _).2.1 noneRefused).2 (by simp [isNamed])

end ServiceBindings.Generation
