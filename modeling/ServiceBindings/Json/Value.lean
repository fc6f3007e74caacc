import ServiceBindings.Dictionary
import ServiceBindings.Json.Double

/-!
# JSON values

The data that templates are filled from, summaries are printed from and schema files are
stored as.  The fields of an object keep the order in which they were given; a value with
its fields in ascending order is `sorted`.
-/

namespace ServiceBindings.Json

/-- A number, which is an integer unless it was written with a point or an exponent. -/
inductive Number where
  | integer (value : Int)
  | double (value : Double)
deriving DecidableEq, Repr

/-- The text of a number. -/
def Number.text : Number → String
  | integer value => toString value
  | double value => value.text

/-- The rational that a number is. -/
def Number.toRat : Number → Rat
  | integer value => value
  | double value => if value.negative then -value.magnitude else value.magnitude

/-- A JSON value. -/
inductive Value where
  | null
  | bool (value : Bool)
  | number (value : Number)
  | text (value : String)
  | array (items : List Value)
  | object (fields : List (String × Value))
deriving BEq, Repr, Inhabited

namespace Value

mutual

/-- The value with the fields of every object in ascending order of their keys, and with
the last field of every key only. -/
def sorted : Value → Value
  | null => null
  | bool value => bool value
  | number value => number value
  | text value => text value
  | array items => array (sortedItems items)
  | object fields => object (sortedFields fields [])
termination_by structural value => value

/-- Items with their fields in ascending order. -/
def sortedItems : List Value → List Value
  | [] => []
  | item :: rest => item.sorted :: sortedItems rest
termination_by structural items => items

/-- Ascending entries with further fields put in their places. -/
def sortedFields : List (String × Value) → List (String × Value) → List (String × Value)
  | [], entries => entries
  | (key, value) :: rest, entries =>
    sortedFields rest (Dictionary.insertEntry key value.sorted entries)
termination_by structural fields => fields

end

/-- The value of a field. -/
def field? (key : String) : Value → Option Value
  | object fields => Dictionary.findIn? key fields
  | _ => none

/-- An integer value. -/
def ofNat (value : Nat) : Value := number (.integer value)

/-- A text, or null where there is none. -/
def ofText? : Option String → Value
  | none => null
  | some value => text value

end Value

end ServiceBindings.Json
