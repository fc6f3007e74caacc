/-!
# Decoding errors

Why octets are not an encoded message, and in which field of which message that was found.
-/

namespace ServiceBindings.Wire

/-- The low three bits of a key, which tell how the payload of a field is delimited. -/
inductive WireType where
  | varint
  | sixtyFourBit
  | lengthDelimited
  | startGroup
  | endGroup
  | thirtyTwoBit
deriving DecidableEq, Repr

namespace WireType

/-- All wire types in the order of their codes. -/
def all : List WireType :=
  [varint, sixtyFourBit, lengthDelimited, startGroup, endGroup, thirtyTwoBit]

/-- The code of a wire type. -/
def code : WireType → Nat
  | varint => 0
  | sixtyFourBit => 1
  | lengthDelimited => 2
  | startGroup => 3
  | endGroup => 4
  | thirtyTwoBit => 5

/-- The wire type with a code. -/
def ofCode? (code : Nat) : Option WireType := all[code]?

/-- The name of a wire type. -/
def name : WireType → String
  | varint => "Varint"
  | sixtyFourBit => "SixtyFourBit"
  | lengthDelimited => "LengthDelimited"
  | startGroup => "StartGroup"
  | endGroup => "EndGroup"
  | thirtyTwoBit => "ThirtyTwoBit"

end WireType

/-- What is wrong with octets. -/
inductive Fault where
  /-- A varint does not end, or exceeds 64 bits. -/
  | invalidVarint
  /-- A key exceeds 32 bits. -/
  | invalidKey (key : Nat)
  | invalidWireType (code : Nat)
  /-- The field number is zero. -/
  | invalidNumber
  | unexpectedWireType (found expected : WireType)
  /-- The input ends before a payload does. -/
  | underflow
  /-- The fields of a message reach beyond its end. -/
  | lengthExceeded
  /-- The octets of a text are not UTF-8. -/
  | invalidText
  /-- Messages or groups are nested too deeply. -/
  | tooDeep
  /-- A group ends that did not start. -/
  | unexpectedEndGroup
deriving DecidableEq, Repr

/-- The text of a fault. -/
def Fault.message : Fault → String
  | invalidVarint => "invalid varint"
  | invalidKey key => "invalid key value: " ++ toString key
  | invalidWireType code => "invalid wire type value: " ++ toString code
  | invalidNumber => "invalid tag value: 0"
  | unexpectedWireType found expected =>
    "invalid wire type: " ++ found.name ++ " (expected " ++ expected.name ++ ")"
  | underflow => "buffer underflow"
  | lengthExceeded => "delimited length exceeded"
  | invalidText => "invalid string value: data is not UTF-8 encoded"
  | tooDeep => "recursion limit reached"
  | unexpectedEndGroup => "unexpected end group tag"

/-- A fault with the fields in which it was found, the innermost one first.  A field is told
by the name of its message and its own name. -/
structure DecodeError where
  fault : Fault
  trail : List (String × String)
deriving DecidableEq, Repr

namespace DecodeError

/-- The error of a fault outside any known field. -/
def ofFault (fault : Fault) : DecodeError := ⟨fault, []⟩

/-- The error as it is seen from around a field. -/
def within (message field : String) (error : DecodeError) : DecodeError :=
  { error with trail := error.trail ++ [(message, field)] }

/-- The text of an error. -/
def message (error : DecodeError) : String :=
  "failed to decode Protobuf message: " ++
    String.join (error.trail.map fun place => place.1 ++ "." ++ place.2 ++ ": ") ++
    error.fault.message

end DecodeError

end ServiceBindings.Wire
