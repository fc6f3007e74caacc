import ServiceBindings.Text.Utf8
import ServiceBindings.Wire.Message

/-!
# Encoding messages
-/

namespace ServiceBindings.Wire

/-- A number in groups of seven bits, the lowest first. -/
def varint (value : Nat) : List UInt8 :=
  if value < 0x80 then [UInt8.ofNat value]
  else UInt8.ofNat (0x80 + value % 0x80) :: varint (value / 0x80)

/-- The key of a field. -/
def key (number : Nat) (wireType : WireType) : List UInt8 :=
  varint (8 * number + wireType.code)

/-- Octets after their number. -/
def delimited (octets : List UInt8) : List UInt8 :=
  varint octets.length ++ octets

mutual

/-- A field with its key. -/
def encodeField (number : Nat) : Value → List UInt8
  | .number value => key number .varint ++ varint value
  | .numbers values => key number .lengthDelimited ++ delimited (values.flatMap varint)
  | .double octets => key number .sixtyFourBit ++ octets
  | .octets content => key number .lengthDelimited ++ delimited content
  | .text value => key number .lengthDelimited ++ delimited (Text.Utf8.encode value)
  | .message fields => key number .lengthDelimited ++ delimited (encode fields)
termination_by structural value => value

/-- The octets of a message with the given fields. -/
def encode : List (Nat × Value) → List UInt8
  | [] => []
  | (number, value) :: rest => encodeField number value ++ encode rest
termination_by structural fields => fields

end

namespace Fields

/-- A field with a text, if there is one. -/
def ofText? (number : Nat) (text? : Option String) : Fields :=
  text?.toList.map fun text => (number, .text text)

/-- A field with a truth value, if there is one. -/
def ofFlag? (number : Nat) (flag? : Option Bool) : Fields :=
  flag?.toList.map fun flag => (number, .number flag.toNat)

/-- A repeated field with messages. -/
def ofMessages (number : Nat) (messages : List Fields) : Fields :=
  messages.map fun message => (number, .message message)

end Fields

end ServiceBindings.Wire
