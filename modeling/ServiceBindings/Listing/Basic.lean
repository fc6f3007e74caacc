import ServiceBindings.Json.Printer
import ServiceBindings.Listing.Color
import ServiceBindings.OutputFormat

/-!
# Listings

A value as an indented listing, for people to read.  A field is a line with its key, an item
a line with a dash.  A scalar (a value that is not an array or object with something in it)
follows on the same line, and the members of any other value follow on lines of their own,
two spaces further in.
-/

namespace ServiceBindings.Listing

open Json (Value)

/-- Whether a value fits on the line of its key or dash. -/
def isScalar : Value → Bool
  | .array items => items.isEmpty
  | .object fields => fields.isEmpty
  | _ => true

/-- The text of a scalar: a text itself, and other values as JSON. -/
def scalarText : Value → String
  | .text value => value
  | other => other.compact

/-- The color of a scalar. -/
def scalarColor : Value → Color
  | .null => .absent
  | .bool _ => .switch
  | .number _ => .number
  | _ => .text

/-- How keys and scalars are shown. -/
structure Style where
  key : String → String
  scalar : Value → String

/-- Keys and scalars are shown as they are. -/
def Style.plain : Style where
  key := id
  scalar := scalarText

/-- Keys and scalars are shown in colors. -/
def Style.colored : Style where
  key := Color.paint .key
  scalar value := (scalarColor value).paint (scalarText value)

/-- The lines of a member with a label, given the lines of its value on their own. -/
def memberLines (style : Style) (label : String) (value : Value) (inner : List String) :
    List String :=
  if isScalar value then [label ++ " " ++ style.scalar value] else label :: inner

mutual

/-- The lines of a value at a depth. -/
def lines (style : Style) (depth : Nat) : Value → List String
  | .array (item :: items) => itemsLines style depth (item :: items)
  | .object (field :: fields) => fieldsLines style depth (field :: fields)
  | scalar => [Value.indentation depth ++ style.scalar scalar]
termination_by structural value => value

/-- The lines of items. -/
def itemsLines (style : Style) (depth : Nat) : List Value → List String
  | [] => []
  | item :: rest =>
    memberLines style (Value.indentation depth ++ "-") item (lines style (depth + 1) item) ++
      itemsLines style depth rest
termination_by structural items => items

/-- The lines of fields. -/
def fieldsLines (style : Style) (depth : Nat) : List (String × Value) → List String
  | [] => []
  | (key, value) :: rest =>
    memberLines style (Value.indentation depth ++ style.key key ++ ":") value
        (lines style (depth + 1) value) ++
      fieldsLines style depth rest
termination_by structural fields => fields

end

/-- The listing of a value, with the fields of objects in ascending order of their keys. -/
def render (style : Style) (value : Value) : String :=
  String.intercalate "\n" (lines style 0 value.sorted)

/-- A value in an output format; `colors` tells whether colors are shown at all. -/
def format (colors : Bool) (format : OutputFormat) (value : Value) : String :=
  match format with
  | .json => value.pretty 0
  | .text => render .plain value
  | .pretty => render (if colors then .colored else .plain) value

end ServiceBindings.Listing
