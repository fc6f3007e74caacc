import ServiceBindings.Json.Printer
import ServiceBindings.Text.Quoted

/-!
# Reading JSON values

A value is read as a text, a switch, a list or a record.  A record is an object with a field
for each of its members, or an array of the members in the order of their declaration.  What
cannot be read is reported by the first fault: a member of the wrong kind before a member
that is missing, and a missing member before one too many.
-/

namespace ServiceBindings.Json

/-- Why a value cannot be read. -/
inductive ReadError where
  /-- The value is of another kind than the one that is read. -/
  | unexpectedKind (found : Value) (expected : String)
  /-- An object has no field for a member. -/
  | missingField (name : String)
  /-- An array has no item for a member. -/
  | missingItem (present : Nat) (expected : String)
  /-- An array has more items than there are members. -/
  | surplusItems (present : Nat)
deriving BEq, Repr

/-- The kind of a value, with the value itself if it is short. -/
def Value.description : Value → String
  | null => "null"
  | bool value => "boolean `" ++ (if value then "true" else "false") ++ "`"
  | number (.integer value) => "integer `" ++ toString value ++ "`"
  | number (.double value) => "floating point `" ++ value.text ++ "`"
  | text value => "string " ++ Text.quoted value
  | array _ => "sequence"
  | object _ => "map"

/-- The text of an error. -/
def ReadError.message : ReadError → String
  | unexpectedKind found expected =>
    "invalid type: " ++ found.description ++ ", expected " ++ expected
  | missingField name => "missing field `" ++ name ++ "`"
  | missingItem present expected =>
    "invalid length " ++ toString present ++ ", expected " ++ expected
  | surplusItems present =>
    "invalid length " ++ toString present ++ ", expected fewer elements in array"

/-- What a value is read as, or why it cannot be. -/
abbrev Reading (α : Type) := Except ReadError α

namespace Value

/-- Reads a text. -/
def asText : Value → Reading String
  | text value => .ok value
  | other => .error (.unexpectedKind other "a string")

/-- Reads a switch. -/
def asSwitch : Value → Reading Bool
  | bool value => .ok value
  | other => .error (.unexpectedKind other "a boolean")

/-- Reads a text that null stands for if there is none. -/
def asOptionalText : Value → Reading (Option String)
  | null => .ok none
  | other => other.asText.map some

/-- Reads a list of items. -/
def asList {α : Type} (readItem : Value → Reading α) : Value → Reading (List α)
  | array items => items.mapM readItem
  | other => .error (.unexpectedKind other "a sequence")

end Value

/-- What a record looks like: what it is called in messages, and the names of its members in
the order of their declaration. -/
structure RecordShape where
  title : String
  members : List String
deriving DecidableEq, Repr

/-- What an array is expected to be in the place of a record. -/
def RecordShape.expectedItems (shape : RecordShape) : String :=
  let count := shape.members.length
  shape.title ++ " with " ++ toString count ++ (if count = 1 then " element" else " elements")

/-- A value in which the members of a record were found. -/
structure Record where
  shape : RecordShape
  /-- The values of the members that are present, by name. -/
  fields : List (String × Value)
  /-- The number of items, if the record is an array. -/
  itemCount : Option Nat

namespace Record

/-- Finds the members of a record in a value. -/
def ofValue (shape : RecordShape) : Value → Reading Record
  | .object fields => .ok ⟨shape, fields, none⟩
  | .array items => .ok ⟨shape, shape.members.zip items, some items.length⟩
  | other => .error (.unexpectedKind other shape.title)

/-- Reads the value of a member, if it is present. -/
def read? {α : Type} (record : Record) (name : String) (readMember : Value → Reading α) :
    Option (Reading α) :=
  (Dictionary.findIn? name record.fields).map readMember

/-- The fault of a member that was read. -/
def fault? {α : Type} : Option (Reading α) → Option ReadError
  | some (.error error) => some error
  | _ => none

/-- Reports the first of the faults of members, which are given with the names of the
members in the order of declaration.  The fields of an object come in the order of their
names, the items of an array in that of declaration. -/
def check (record : Record) (faults : List (String × Option ReadError)) : Reading Unit :=
  let ordered := if record.itemCount.isSome then faults else (Dictionary.ofList faults).entries
  match ordered.findSome? (·.2) with
  | some error => .error error
  | none => .ok ()

/-- The error of a member that is missing and has no default. -/
def absence (record : Record) (name : String) : ReadError :=
  match record.itemCount with
  | none => .missingField name
  | some count => .missingItem count record.shape.expectedItems

/-- The value of a member that must be present. -/
def required {α : Type} (record : Record) (name : String) : Option (Reading α) → Reading α
  | some reading => reading
  | none => .error (record.absence name)

/-- The value of a member that an object, but not an array, may leave out. -/
def optional {α : Type} (record : Record) (name : String) :
    Option (Reading (Option α)) → Reading (Option α)
  | some reading => reading
  | none => if record.itemCount.isSome then .error (record.absence name) else .ok none

/-- The value of a member that may be left out. -/
def defaulted {α : Type} (fallback : α) : Option (Reading α) → Reading α
  | some reading => reading
  | none => .ok fallback

/-- Reports items beyond the members of the record. -/
def checkEnd (record : Record) : Reading Unit :=
  match record.itemCount with
  | some count =>
    if record.shape.members.length < count then .error (.surplusItems count) else .ok ()
  | none => .ok ()

end Record

end ServiceBindings.Json
