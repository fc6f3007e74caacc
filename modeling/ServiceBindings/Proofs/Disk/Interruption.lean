import ServiceBindings.Proofs.Disk.Actions
import ServiceBindings.Proofs.Disk.Directories

/-!
# Programs on a disk that may refuse

A disk may refuse any change for reasons of its own, such as a lack of room.  A change that is
refused may have been made in part: the directories of a path down to some of them, or a file
with any content.  A move is made as a whole or not at all.  What holds however a program ends
on such a disk holds in particular of `Program.run`.
-/

namespace ServiceBindings.Disk

/-- How an action may end on a disk that can refuse it at any moment. -/
inductive Action.MayEnd (disk : Disk) : Action → Disk → Option Fault → Prop where
  /-- It is performed, as far as what is on the disk admits it. -/
  | performed (action : Action) :
      MayEnd disk action (action.perform disk).1 (action.perform disk).2
  /-- It is refused before anything was changed. -/
  | refused (action : Action) (fault : Fault) : MayEnd disk action disk (some fault)
  /-- Directories are created for leading names only. -/
  | createdInPart (path : String) {above : List String}
      (isSuffix : above <:+ (steps path).reverse) (fault : Fault) :
      MayEnd disk (.createDirectories path) (disk.ensureAbove (isAbsolute path) above).1
        (some fault)
  /-- A file is left with another content. -/
  | writtenInPart (path : String) (octets : List UInt8) {other : List UInt8} {left : Disk}
      (isWritten : disk.write path other = .ok left) (fault : Fault) :
      MayEnd disk (.write path octets) left (some fault)

namespace Program

variable {α β : Type}

/-- The value with which a program may end, and the disk that it may leave, if every change can
be refused. -/
inductive MayEnd : Disk → Program α → α → Disk → Prop where
  | done (disk : Disk) (value : α) : MayEnd disk (.done value) value disk
  | change {disk middle after : Disk} {action : Action} {next : Option Fault → Program α}
      {fault? : Option Fault} {value : α} (first : action.MayEnd disk middle fault?)
      (rest : MayEnd middle (next fault?) value after) :
      MayEnd disk (.change action next) value after
  | probe {disk after : Disk} {path : String} {next : Bool → Program α} {value : α}
      (rest : MayEnd disk (next (disk.pathExists path)) value after) :
      MayEnd disk (.probe path next) value after
  | read {disk after : Disk} {path : String} {next : Except Fault (List UInt8) → Program α}
      {value : α} (rest : MayEnd disk (next (disk.read path)) value after) :
      MayEnd disk (.read path next) value after
  | walk {disk after : Disk} {path : String} {next : List Visit → Program α} {value : α}
      (rest : MayEnd disk (next (disk.walk path)) value after) :
      MayEnd disk (.walk path next) value after

/-- A run in which nothing is refused is one of the ways in which a program may end. -/
theorem mayEnd_run (disk : Disk) (program : Program α) :
    MayEnd disk program (program.run disk).1 (program.run disk).2 := by
  induction program generalizing disk with
  | done value => exact .done disk value
  | change action next ih => exact .change (.performed action) (ih _ _)
  | probe path next ih => exact .probe (ih _ _)
  | read path next ih => exact .read (ih _ _)
  | walk path next ih => exact .walk (ih _ _)

theorem MayEnd.of_andThen {disk after : Disk} {first : Program α} {second : α → Program β}
    {result : β} (ends : MayEnd disk (first.andThen second) result after) :
    ∃ value middle, MayEnd disk first value middle ∧ MayEnd middle (second value) result after := by
  induction first generalizing disk with
  | done value => exact ⟨value, disk, .done disk value, ends⟩
  | change action next ih =>
      cases ends with
      | change performed rest =>
          rcases ih _ rest with ⟨value, middle, inFirst, inSecond⟩
          exact ⟨value, middle, .change performed inFirst, inSecond⟩
  | probe path next ih =>
      cases ends with
      | probe rest =>
          rcases ih _ rest with ⟨value, middle, inFirst, inSecond⟩
          exact ⟨value, middle, .probe inFirst, inSecond⟩
  | read path next ih =>
      cases ends with
      | read rest =>
          rcases ih _ rest with ⟨value, middle, inFirst, inSecond⟩
          exact ⟨value, middle, .read inFirst, inSecond⟩
  | walk path next ih =>
      cases ends with
      | walk rest =>
          rcases ih _ rest with ⟨value, middle, inFirst, inSecond⟩
          exact ⟨value, middle, .walk inFirst, inSecond⟩

/-- What every action of a list preserves, however it ends, is preserved by all of them. -/
theorem MayEnd.preserves {invariant : Disk → Prop} {actions : List Action}
    (step : ∀ action ∈ actions, ∀ before after fault?, invariant before →
      action.MayEnd before after fault? → invariant after)
    {disk after : Disk} {failure? : Option Failure} (holds : invariant disk)
    (ends : MayEnd disk (performAll actions) failure? after) : invariant after := by
  induction actions generalizing disk with
  | nil =>
      cases ends
      exact holds
  | cons action rest ih =>
      cases ends with
      | @change _ middle _ _ _ fault? _ first others =>
          have holdsAfter := step action (List.mem_cons_self ..) disk middle fault? holds first
          cases fault? with
          | none =>
              exact ih (fun other member => step other (List.mem_cons_of_mem _ member))
                holdsAfter others
          | some fault =>
              cases others
              exact holdsAfter

/-- Actions that end have ended in the first part of them, or in the second part when all of the
first part was performed. -/
theorem MayEnd.of_performAll_append {front back : List Action} {disk after : Disk}
    {failure? : Option Failure}
    (ends : MayEnd disk (performAll (front ++ back)) failure? after) :
    MayEnd disk (performAll front) failure? after ∨
      ∃ middle, MayEnd disk (performAll front) none middle ∧
        MayEnd middle (performAll back) failure? after := by
  induction front generalizing disk with
  | nil => exact .inr ⟨disk, .done disk none, ends⟩
  | cons action rest ih =>
      cases ends with
      | @change _ middle _ _ _ fault? _ first others =>
          cases fault? with
          | none =>
              rcases ih others with stopped | ⟨between, inRest, inBack⟩
              · exact .inl (.change first stopped)
              · exact .inr ⟨between, .change first inRest, inBack⟩
          | some fault =>
              cases others
              exact .inl (.change first (.done _ _))

/-- What every group of actions preserves, wherever it stops, is preserved by all groups. -/
theorem MayEnd.preserves_flatMap {ι : Type} {invariant : Disk → Prop} {items : List ι}
    {actionsOf : ι → List Action}
    (step : ∀ item ∈ items, ∀ before after failure?, invariant before →
      MayEnd before (performAll (actionsOf item)) failure? after → invariant after)
    {disk after : Disk} {failure? : Option Failure} (holds : invariant disk)
    (ends : MayEnd disk (performAll (items.flatMap actionsOf)) failure? after) :
    invariant after := by
  induction items generalizing disk with
  | nil =>
      cases ends
      exact holds
  | cons item rest ih =>
      have first := step item (List.mem_cons_self ..)
      rw [List.flatMap_cons] at ends
      rcases ends.of_performAll_append with stopped | ⟨middle, inItem, inRest⟩
      · exact first _ _ _ holds stopped
      · exact ih (fun other member => step other (List.mem_cons_of_mem _ member))
          (first _ _ _ holds inItem) inRest

end Program

/-! ## What is left -/

namespace Action.MayEnd

variable {disk after : Disk} {fault? : Option Fault}

theorem perform_eq_of_none {action : Action} (ends : action.MayEnd disk after none) :
    action.perform disk = (after, none) := by
  generalize isNone : (none : Option Fault) = fault? at ends
  cases ends with
  | performed => rfl
  | refused => cases isNone
  | createdInPart => cases isNone
  | writtenInPart => cases isNone

/-- However an action ends, it has touched no files but those to which its paths lead. -/
theorem confined {action : Action} (ends : action.MayEnd disk after fault?) :
    ConfinedTo action.filePaths disk after := by
  cases ends with
  | performed => exact action.confined_perform disk
  | refused => exact .refl _ disk
  | createdInPart =>
      exact ensureAbove_induct (ConfinedTo []) (.refl []) .trans
        (fun _ => confined_makeDirectory) disk
  | writtenInPart _ _ isWritten => exact confined_write isWritten

theorem grows {action : Action} (ends : action.MayEnd disk after fault?) : Grows disk after :=
  ends.confined.grows

theorem deepens {path : String} (hasStart : disk.HasStart (isAbsolute path))
    (ends : (createDirectories path).MayEnd disk after fault?) :
    Deepens (isAbsolute path) (steps path) disk after := by
  cases ends with
  | performed => exact deepens_createDirectories hasStart
  | refused => exact .refl _ _ disk
  | @createdInPart _ above isSuffix fault =>
      have areSteps : ∀ name ∈ above, IsStep name :=
        fun name member => isStep_of_mem_steps (List.mem_reverse.mp (isSuffix.subset member))
      have isPrefix : above.reverse <+: steps path := by
        simpa using List.reverse_prefix.mpr isSuffix
      exact (deepens_ensureAbove hasStart areSteps).mono isPrefix

theorem write_cases {path : String} {octets : List UInt8}
    (ends : (write path octets).MayEnd disk after fault?) :
    after = disk ∨ ∃ content, disk.write path content = .ok after := by
  cases ends with
  | performed =>
      cases written : disk.write path octets with
      | error fault =>
          rw [perform, written]
          exact .inl rfl
      | ok left =>
          rw [perform, written]
          exact .inr ⟨octets, written⟩
  | refused => exact .inl rfl
  | writtenInPart _ _ isWritten => exact .inr ⟨_, isWritten⟩

theorem rename_cases {source destination : String}
    (ends : (rename source destination).MayEnd disk after fault?) :
    after = disk ∨ disk.rename source destination = .ok after := by
  cases ends with
  | performed =>
      cases moved : disk.rename source destination with
      | error fault =>
          rw [perform, moved]
          exact .inl rfl
      | ok left =>
          rw [perform, moved]
          exact .inr rfl
  | refused => exact .inl rfl

end Action.MayEnd

namespace Program.MayEnd

/-- However actions end, they have touched no files but those to which their paths lead. -/
theorem confined {actions : List Action} {disk after : Disk} {failure? : Option Failure}
    (ends : MayEnd disk (performAll actions) failure? after) :
    ConfinedTo (actions.flatMap Action.filePaths) disk after := by
  have step : ∀ action ∈ actions, ∀ before left fault?,
      ConfinedTo (actions.flatMap Action.filePaths) disk before →
        action.MayEnd before left fault? →
          ConfinedTo (actions.flatMap Action.filePaths) disk left := by
    intro action member before left fault? held ended
    apply held.trans
    apply ended.confined.mono
    intro path inAction
    exact List.mem_flatMap.mpr ⟨action, member, inAction⟩
  exact ends.preserves step (.refl _ disk)

/-- However a program ends, all directories are still there. -/
theorem grows {α : Type} {disk after : Disk} {program : Program α} {value : α}
    (ends : MayEnd disk program value after) : Grows disk after := by
  induction ends with
  | done disk value => exact .refl disk
  | change first _ ih => exact first.grows.trans ih
  | probe _ ih => exact ih
  | read _ ih => exact ih
  | walk _ ih => exact ih

end Program.MayEnd

end ServiceBindings.Disk
