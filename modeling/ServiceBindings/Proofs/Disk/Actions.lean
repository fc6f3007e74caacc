import ServiceBindings.Proofs.Disk.Confinement
import ServiceBindings.Proofs.Disk.Operation

/-!
# Actions that all succeed

Actions one after the other succeed if each of them does, on the disk that the ones before it
leave.
-/

namespace ServiceBindings.Disk

/-- Whether actions succeed one after the other and turn a disk into another one. -/
def Performs (actions : List Action) (before after : Disk) : Prop :=
  (Program.performAll actions).run before = (none, after)

theorem performs_nil_iff {before after : Disk} : Performs [] before after ↔ after = before := by
  rw [Performs, Program.performAll, Program.run, Prod.mk.injEq]
  exact ⟨fun given => given.2.symm, fun same => ⟨rfl, same.symm⟩⟩

theorem performs_cons_iff {action : Action} {rest : List Action} {before after : Disk} :
    Performs (action :: rest) before after ↔
      ∃ middle, action.perform before = (middle, none) ∧ Performs rest middle after := by
  rw [Performs, Program.performAll, Program.run]
  rcases performed : action.perform before with ⟨middle, fault?⟩
  cases fault? with
  | none =>
      constructor
      · intro restPerformed
        exact ⟨middle, rfl, restPerformed⟩
      · intro given
        rcases given with ⟨_, same, restPerformed⟩
        cases same
        exact restPerformed
  | some fault =>
      constructor
      · intro stopped
        cases stopped
      · intro given
        rcases given with ⟨_, same, _⟩
        cases same

theorem performs_append_iff {front back : List Action} {before after : Disk} :
    Performs (front ++ back) before after ↔
      ∃ middle, Performs front before middle ∧ Performs back middle after := by
  induction front generalizing before with
  | nil =>
      constructor
      · intro performed
        exact ⟨before, performs_nil_iff.mpr rfl, performed⟩
      · intro given
        rcases given with ⟨middle, nothing, performed⟩
        rw [performs_nil_iff] at nothing
        exact nothing ▸ performed
  | cons action rest ih =>
      rw [List.cons_append, performs_cons_iff]
      constructor
      · intro given
        rcases given with ⟨next, performed, others⟩
        rcases ih.mp others with ⟨middle, restPerformed, backPerformed⟩
        exact ⟨middle, performs_cons_iff.mpr ⟨next, performed, restPerformed⟩, backPerformed⟩
      · intro given
        rcases given with ⟨middle, frontPerformed, backPerformed⟩
        rcases performs_cons_iff.mp frontPerformed with ⟨next, performed, restPerformed⟩
        exact ⟨next, performed, ih.mpr ⟨middle, restPerformed, backPerformed⟩⟩

theorem Performs.grows {actions : List Action} {before after : Disk}
    (performed : Performs actions before after) : Grows before after := by
  induction actions generalizing before with
  | nil =>
      rw [performs_nil_iff] at performed
      rw [performed]
      exact .refl before
  | cons action rest ih =>
      rcases performs_cons_iff.mp performed with ⟨middle, first, others⟩
      have confined := action.confined_perform before
      rw [first] at confined
      exact confined.grows.trans (ih others)

theorem grows_of_createDirectories {path : String} {before after : Disk} {fault? : Option Fault}
    (created : before.createDirectories path = (after, fault?)) : Grows before after := by
  have confined := confined_createDirectories before path
  rw [created] at confined
  exact confined.grows

theorem outcome_eq_none_iff {disk after : Disk} {result : Except Fault Disk} :
    Action.outcome disk result = (after, none) ↔ result = .ok after := by
  cases result with
  | error fault => simp [Action.outcome]
  | ok changed => simp [Action.outcome]

theorem read_of_names {disk : Disk} {path : String} {location : Location} {octets : List UInt8}
    (names : disk.Names path location) (noSlash : endsInSlash path = false)
    (stored : disk.find? location = some (.file octets)) : disk.read path = .ok octets := by
  rcases names with ⟨directory, name, located, rfl⟩
  simp only [read, lookUp, located, Target.location, Option.toList_some, stored, noSlash,
    Bool.false_eq_true, if_false]

end ServiceBindings.Disk
