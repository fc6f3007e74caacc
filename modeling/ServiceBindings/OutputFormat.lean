import ServiceBindings.Error
import ServiceBindings.Text.Letter

/-!
# Output formats

The forms in which a command prints its summary.
-/

namespace ServiceBindings

/-- The form of a summary. -/
inductive OutputFormat where
  /-- JSON over several lines. -/
  | json
  /-- An indented listing. -/
  | text
  /-- The listing in colors. -/
  | pretty
deriving DecidableEq, Repr

namespace OutputFormat

/-- The format that is used if none is asked for. -/
def default : OutputFormat := pretty

/-- The name of a format. -/
def name : OutputFormat → String
  | json => "json"
  | text => "text"
  | pretty => "pretty"

/-- The format that a word names in any mixture of cases. -/
def parse (word : String) : Except GenerationError OutputFormat :=
  match Text.lowercase word with
  | "json" => .ok json
  | "text" => .ok text
  | "pretty" => .ok pretty
  | _ => .error (.invalidArgument
      ("invalid output format: '" ++ word ++ "' (expected: json, text, or pretty)"))

end OutputFormat

end ServiceBindings
