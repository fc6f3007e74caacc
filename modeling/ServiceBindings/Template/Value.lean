import ServiceBindings.Json.Numeral
import ServiceBindings.Template.Helper
import ServiceBindings.Text.Utf8

/-!
# Values in templates

What templates make of JSON values: whether a value holds, its text, its length, and how two
values compare.
-/

namespace ServiceBindings.Template

open Json

/-- Whether a value holds: neither false, null, zero nor empty.  Numbers so small that they
have not full precision count as zero. -/
def holds : Value → Bool
  | .null => false
  | .bool value => value
  | .number (.integer value) => value != 0
  | .number (.double value) => value.isNormal
  | .text value => !value.isEmpty
  | .array items => !items.isEmpty
  | .object fields => !fields.isEmpty

/-- Whether a value holds if all numbers do. -/
def holdsOrIsNumber : Value → Bool
  | .number _ => true
  | value => holds value

mutual

/-- The text in the place of a value tag. -/
def valueText : Value → String
  | .null => ""
  | .bool value => if value then "true" else "false"
  | .number value => value.text
  | .text value => value
  | .array items => "[" ++ String.intercalate ", " (valueTexts items) ++ "]"
  | .object _ => "[object]"
termination_by structural value => value

/-- The texts of several values. -/
def valueTexts : List Value → List String
  | [] => []
  | value :: rest => valueText value :: valueTexts rest
termination_by structural values => values

end

/-- The number of octets of a text, of items of an array, or of fields of an object. -/
def valueLength : Value → Nat
  | .text value => (Text.Utf8.encode value).length
  | .array items => items.length
  | .object fields => fields.length
  | _ => 0

/-! ## Equality -/

/-- A number whose sign does not tell zeros apart. -/
def unsignedZero : Number → Number
  | .integer value => .integer value
  | .double value =>
    .double (if value.significand = 0 then { value with negative := false } else value)

mutual

/-- A value in which signs do not tell zeros apart. -/
def withoutZeroSigns : Value → Value
  | .null => .null
  | .bool value => .bool value
  | .number value => .number (unsignedZero value)
  | .text value => .text value
  | .array items => .array (itemsWithoutZeroSigns items)
  | .object fields => .object (fieldsWithoutZeroSigns fields)
termination_by structural value => value

/-- Items in which signs do not tell zeros apart. -/
def itemsWithoutZeroSigns : List Value → List Value
  | [] => []
  | item :: rest => withoutZeroSigns item :: itemsWithoutZeroSigns rest
termination_by structural items => items

/-- Fields in which signs do not tell zeros apart. -/
def fieldsWithoutZeroSigns : List (String × Value) → List (String × Value)
  | [] => []
  | (key, value) :: rest => (key, withoutZeroSigns value) :: fieldsWithoutZeroSigns rest
termination_by structural fields => fields

end

/-- Whether two values are equal.  An integer never equals a double, but the two zeros among
the doubles are equal. -/
def areEqual (left right : Value) : Bool := withoutZeroSigns left == withoutZeroSigns right

/-! ## Order -/

/-- The order of two rationals. -/
def rationalOrder (left right : Rat) : Ordering :=
  if left < right then .lt else if right < left then .gt else .eq

/-- The double nearest to a number. -/
def nearestDouble : Number → Numeral
  | .integer value => .ofInt value
  | .double value => .finite value

/-- The order of a number and a text, which have one if the text is a numeral.  Both count as
the doubles that are nearest to them. -/
def numeralOrder? (number : Number) (text : String) : Option Ordering :=
  (Numeral.ofText? text).map fun numeral =>
    rationalOrder (nearestDouble number).toRat numeral.toRat

/-- The order of two values: numbers by size, texts by code points, false before true, and
numbers among numerals.  Other values have no order. -/
def valueOrder? : Value → Value → Option Ordering
  | .number left, .number right => some (rationalOrder left.toRat right.toRat)
  | .text left, .text right => some (compare left right)
  | .bool left, .bool right => some (compare left right)
  | .number left, .text right => numeralOrder? left right
  | .text left, .number right => (numeralOrder? right left).map Ordering.swap
  | _, _ => none

/-- Whether two values compare in the given way. -/
def Comparison.accepts (comparison : Comparison) (left right : Value) : Bool :=
  match comparison with
  | equal => areEqual left right
  | different => !areEqual left right
  | greater => valueOrder? left right == some .gt
  | greaterOrEqual => (valueOrder? left right).any Ordering.isGE
  | less => valueOrder? left right == some .lt
  | lessOrEqual => (valueOrder? left right).any Ordering.isLE

end ServiceBindings.Template
