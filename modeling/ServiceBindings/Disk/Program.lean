import ServiceBindings.Disk.Tree

/-!
# Programs over a disk

What a command does, as a tree of the operations that it performs: every operation is a node,
and what happens next depends on how the operation went.  `Program.run` performs a program on
a disk.
-/

namespace ServiceBindings.Disk

/-- An operation that changes a disk. -/
inductive Action where
  | createDirectories (path : String)
  | write (path : String) (octets : List UInt8)
  | rename (source destination : String)
deriving DecidableEq, Repr

namespace Action

/-- The path that an action is about. -/
def path : Action → String
  | createDirectories path => path
  | write path _ => path
  | rename _ destination => destination

/-- Turns an operation that fails without any effect into one with a fault beside the disk. -/
def outcome (disk : Disk) : Except Fault Disk → Disk × Option Fault
  | .ok changed => (changed, none)
  | .error fault => (disk, some fault)

/-- Performs an action on a disk. -/
def perform (disk : Disk) : Action → Disk × Option Fault
  | createDirectories path => disk.createDirectories path
  | write path octets => outcome disk (disk.write path octets)
  | rename source destination => outcome disk (disk.rename source destination)

end Action

/-- A computation that works on a disk and yields a value. -/
inductive Program (α : Type) where
  | done (value : α)
  /-- Changes the disk; the rest depends on the fault, if there is one. -/
  | change (action : Action) (next : Option Fault → Program α)
  /-- Asks whether a path leads to anything. -/
  | probe (path : String) (next : Bool → Program α)
  /-- Reads a file. -/
  | read (path : String) (next : Except Fault (List UInt8) → Program α)
  /-- Reads all files at or below a path. -/
  | walk (path : String) (next : List Visit → Program α)

namespace Program

variable {α β : Type}

/-- The value that a program yields on a disk, and the disk that it leaves. -/
def run (disk : Disk) : Program α → α × Disk
  | done value => (value, disk)
  | change action next => (next (action.perform disk).2).run (action.perform disk).1
  | probe path next => (next (disk.pathExists path)).run disk
  | read path next => (next (disk.read path)).run disk
  | walk path next => (next (disk.walk path)).run disk

/-- A program followed by one that depends on its value. -/
def andThen (first : Program α) (second : α → Program β) : Program β :=
  match first with
  | done value => second value
  | change action next => change action fun fault? => (next fault?).andThen second
  | probe path next => probe path fun found => (next found).andThen second
  | read path next => read path fun content => (next content).andThen second
  | walk path next => walk path fun visits => (next visits).andThen second

theorem run_andThen (disk : Disk) (first : Program α) (second : α → Program β) :
    (first.andThen second).run disk =
      (second (first.run disk).1).run (first.run disk).2 := by
  induction first generalizing disk with
  | done value => rfl
  | change action next ih => exact ih _ _
  | probe path next ih => exact ih _ _
  | read path next ih => exact ih _ _
  | walk path next ih => exact ih _ _

/-- Performs actions up to the first one that fails. -/
def performAll : List Action → Program (Option Failure)
  | [] => done none
  | action :: rest =>
    change action fun fault? =>
      match fault? with
      | none => performAll rest
      | some fault => done (some ⟨action.path, fault⟩)

end Program

end ServiceBindings.Disk
