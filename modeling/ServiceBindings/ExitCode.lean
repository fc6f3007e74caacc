/-!
# Exit codes

The number with which a run of the program ends.
-/

namespace ServiceBindings

/-- An exit code. -/
structure ExitCode where
  value : Int32
deriving DecidableEq, Repr

namespace ExitCode

/-- The run did what was asked. -/
def success : ExitCode := ⟨0⟩

/-- The run failed. -/
def failure : ExitCode := ⟨1⟩

/-- What was asked cannot be done, because of a wrong command line or a missing input. -/
def invalidInput : ExitCode := ⟨2⟩

/-- Whether the run did what was asked. -/
def isSuccess (code : ExitCode) : Bool := code.value == 0

/-- The text of an exit code. -/
def text (code : ExitCode) : String := toString code.value

end ExitCode

end ServiceBindings
