import ServiceBindings.Wire.Message
import ServiceBindings.Wire.Reading

/-!
# Decoding messages

A message is the sequence of its fields.  A message inside another one is preceded by its
length, which is only looked at between fields: a field may reach beyond the end of its
message, and this is found out when the field has been read.
-/

namespace ServiceBindings.Wire

/-- How to read the fields of a message of some kind, up to where so many octets are left. -/
abbrev MessageReader :=
  MessageKind → (stop : Nat) → (octets : List UInt8) → Except DecodeError (Left Fields octets)

/-- Reads a length and then, with `read`, what stands in so many octets.  Like the readers of
messages, `read` is told how many octets are left at the end. -/
def takeWithin {α : Type}
    (read : (stop : Nat) → (octets : List UInt8) → Except DecodeError (Left α octets))
    (octets : List UInt8) : Except DecodeError (Left α octets) :=
  match takeVarint octets with
  | .error fault => .error (.ofFault fault)
  | .ok length =>
    if length.rest.length < length.value then .error (.ofFault .underflow)
    else
      match read (length.rest.length - length.value) length.rest with
      | .error error => .error error
      | .ok content =>
        if content.rest.length + length.value = length.rest.length then
          .ok (length.toLeft.andThen content)
        else .error (.ofFault .lengthExceeded)

/-- Reads integers until no more than `stop` octets are left. -/
def takeNumbers (stop : Nat) (octets : List UInt8) :
    Except DecodeError (Left (List Nat) octets) :=
  if octets.length ≤ stop then .ok (.all [] octets)
  else
    match takeVarint octets with
    | .error fault => .error (.ofFault fault)
    | .ok number =>
      (takeNumbers stop number.rest).map fun others =>
        (number.toLeft.andThen others).withValue (number.value :: others.value)
termination_by octets.length
decreasing_by exact number.shorter

/-- Reads the payload of a field of a known kind; `levels` tells how deeply messages may be
nested in it. -/
def takeContent (levels : Nat) (readMessage : MessageReader) (octets : List UInt8) :
    FieldKind → Except DecodeError (Left Value octets)
  | .text =>
    match takeText octets with
    | .error fault => .error (.ofFault fault)
    | .ok text => .ok (text.withValue (.text text.value))
  | .octets =>
    match takeDelimited octets with
    | .error fault => .error (.ofFault fault)
    | .ok content => .ok (content.withValue (.octets content.value))
  | .number | .numbers =>
    match takeVarint octets with
    | .error fault => .error (.ofFault fault)
    | .ok number => .ok (number.toLeft.withValue (.number number.value))
  | .double =>
    match takeOctets 8 octets with
    | .error fault => .error (.ofFault fault)
    | .ok content => .ok (content.withValue (.double content.value))
  | .message kind =>
    if levels = 0 then .error (.ofFault .tooDeep)
    else (takeWithin (readMessage kind) octets).map fun fields =>
      fields.withValue (.message fields.value)

/-- Reads the payload of a known field, which must have the wire type of its kind; integers may
also stand together after the length of all of them. -/
def takePayload (levels : Nat) (readMessage : MessageReader) (kind : FieldKind)
    (wireType : WireType) (octets : List UInt8) : Except DecodeError (Left Value octets) :=
  if kind = .numbers ∧ wireType = .lengthDelimited then
    (takeWithin takeNumbers octets).map fun numbers =>
      numbers.withValue (.numbers numbers.value)
  else if wireType = kind.wireType then takeContent levels readMessage octets kind
  else .error (.ofFault (.unexpectedWireType wireType kind.wireType))

/-- Reads a field with a key.  A field that the kind of message does not have is passed over
and yields nothing. -/
def takeField (levels : Nat) (readMessage : MessageReader) (kind : MessageKind) (key : Key)
    (octets : List UInt8) : Except DecodeError (Left Fields octets) :=
  match kind.field? key.number with
  | none =>
    match skipField levels key octets with
    | .error fault => .error (.ofFault fault)
    | .ok skipped => .ok (skipped.withValue [])
  | some field =>
    match takePayload levels readMessage field.kind key.wireType octets with
    | .error error => .error (error.within kind.name field.name)
    | .ok payload => .ok (payload.withValue [(field.number, payload.value)])

/-- Reads fields until no more than `stop` octets are left. -/
def takeFields (levels : Nat) (readMessage : MessageReader) (kind : MessageKind) (stop : Nat)
    (octets : List UInt8) : Except DecodeError (Left Fields octets) :=
  if octets.length ≤ stop then .ok (.all [] octets)
  else
    match takeKey octets with
    | .error fault => .error (.ofFault fault)
    | .ok key =>
      match takeField levels readMessage kind key.value key.rest with
      | .error error => .error error
      | .ok field =>
        (takeFields levels readMessage kind stop field.rest).map fun others =>
          ((key.toLeft.andThen field).andThen others).withValue (field.value ++ others.value)
termination_by octets.length
decreasing_by exact key.length_rest_lt field

/-- Reads the fields of a message in which messages may be nested so many levels deep. -/
def takeMessage : (levels : Nat) → MessageReader
  | 0 => fun kind stop octets =>
    takeFields 0 (fun _ _ _ => .error (.ofFault .tooDeep)) kind stop octets
  | levels + 1 => fun kind stop octets =>
    takeFields (levels + 1) (takeMessage levels) kind stop octets

/-- The number of levels of nesting below the outermost message. -/
def nestingLimit : Nat := 100

/-- The fields of an encoded message. -/
def decode (kind : MessageKind) (octets : List UInt8) : Except DecodeError Fields :=
  (takeMessage nestingLimit kind 0 octets).map (·.value)

end ServiceBindings.Wire
