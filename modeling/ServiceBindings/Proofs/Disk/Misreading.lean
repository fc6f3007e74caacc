import ServiceBindings.Proofs.Disk.Interruption

/-!
# Programs on a disk that misreports

A disk may fail to be read as well: a file or a directory may not be open to the program, or be
changed by another one.  So a question about the disk may have any answer, a fault in particular,
while changes end as on a disk that may refuse them.  What holds however a program ends then
holds in particular of every `Program.MayEnd`.
-/

namespace ServiceBindings.Disk.Program

variable {α β : Type}

/-- The value with which a program may end, and the disk that it may leave, if every change can
be refused and every question can have any answer. -/
inductive MayEndMisled : Disk → Program α → α → Disk → Prop where
  | done (disk : Disk) (value : α) : MayEndMisled disk (.done value) value disk
  | change {disk middle after : Disk} {action : Action} {next : Option Fault → Program α}
      {fault? : Option Fault} {value : α} (first : action.MayEnd disk middle fault?)
      (rest : MayEndMisled middle (next fault?) value after) :
      MayEndMisled disk (.change action next) value after
  | probe {disk after : Disk} {path : String} {next : Bool → Program α} {value : α}
      (found : Bool) (rest : MayEndMisled disk (next found) value after) :
      MayEndMisled disk (.probe path next) value after
  | read {disk after : Disk} {path : String} {next : Except Fault (List UInt8) → Program α}
      {value : α} (content : Except Fault (List UInt8))
      (rest : MayEndMisled disk (next content) value after) :
      MayEndMisled disk (.read path next) value after
  | walk {disk after : Disk} {path : String} {next : List Visit → Program α} {value : α}
      (visits : List Visit) (rest : MayEndMisled disk (next visits) value after) :
      MayEndMisled disk (.walk path next) value after

/-- A disk that reports what is there is one of the disks that may report anything. -/
theorem MayEnd.misled {disk after : Disk} {program : Program α} {value : α}
    (ends : MayEnd disk program value after) : MayEndMisled disk program value after := by
  induction ends with
  | done disk value => exact .done disk value
  | change first _ ih => exact .change first ih
  | probe _ ih => exact .probe _ ih
  | read _ ih => exact .read _ ih
  | walk _ ih => exact .walk _ ih

theorem MayEndMisled.of_andThen {disk after : Disk} {first : Program α} {second : α → Program β}
    {result : β} (ends : MayEndMisled disk (first.andThen second) result after) :
    ∃ value middle, MayEndMisled disk first value middle ∧
      MayEndMisled middle (second value) result after := by
  induction first generalizing disk with
  | done value => exact ⟨value, disk, .done disk value, ends⟩
  | change action next ih =>
      cases ends with
      | change performed rest =>
          rcases ih _ rest with ⟨value, middle, inFirst, inSecond⟩
          exact ⟨value, middle, .change performed inFirst, inSecond⟩
  | probe path next ih =>
      cases ends with
      | probe found rest =>
          rcases ih _ rest with ⟨value, middle, inFirst, inSecond⟩
          exact ⟨value, middle, .probe found inFirst, inSecond⟩
  | read path next ih =>
      cases ends with
      | read content rest =>
          rcases ih _ rest with ⟨value, middle, inFirst, inSecond⟩
          exact ⟨value, middle, .read content inFirst, inSecond⟩
  | walk path next ih =>
      cases ends with
      | walk visits rest =>
          rcases ih _ rest with ⟨value, middle, inFirst, inSecond⟩
          exact ⟨value, middle, .walk visits inFirst, inSecond⟩

end ServiceBindings.Disk.Program
