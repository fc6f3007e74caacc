import ServiceBindings.Text.Utf8
import ServiceBindings.Wire.Error

/-!
# Reading octets

Readers of the parts of which encoded messages consist.  A reader takes a part off the front
of a list of octets and yields its value and the octets after it.  A reader that takes at
least one octet says so, which is why reading field after field comes to an end.
-/

namespace ServiceBindings.Wire

/-- A value read off the front of octets, with the octets after it. -/
structure Taken (α : Type) (octets : List UInt8) where
  value : α
  rest : List UInt8
  shorter : rest.length < octets.length

/-- Like `Taken`, but there may have been nothing to take. -/
structure Left (α : Type) (octets : List UInt8) where
  value : α
  rest : List UInt8
  notLonger : rest.length ≤ octets.length

namespace Left

variable {α β : Type} {octets : List UInt8}

/-- Octets of which nothing is taken. -/
def all (value : α) (octets : List UInt8) : Left α octets :=
  ⟨value, octets, Nat.le_refl _⟩

/-- Another value in the place of the one that was read. -/
def withValue (left : Left α octets) (value : β) : Left β octets :=
  ⟨value, left.rest, left.notLonger⟩

/-- What was read after something else. -/
def andThen (first : Left α octets) (second : Left β first.rest) : Left β octets :=
  ⟨second.value, second.rest, Nat.le_trans second.notLonger first.notLonger⟩

end Left

namespace Taken

variable {α β : Type} {octets : List UInt8}

/-- What was taken, without regard to how much it was. -/
def toLeft (taken : Taken α octets) : Left α octets :=
  ⟨taken.value, taken.rest, Nat.le_of_lt taken.shorter⟩

theorem length_rest_lt (taken : Taken α octets) (next : Left β taken.rest) :
    next.rest.length < octets.length :=
  Nat.lt_of_le_of_lt next.notLonger taken.shorter

end Taken

/-- What was taken after an octet. -/
def Taken.afterOctet {α β : Type} {rest : List UInt8} (octet : UInt8) (value : β)
    (taken : Taken α rest) : Taken β (octet :: rest) :=
  ⟨value, taken.rest, Nat.lt_succ_of_lt taken.shorter⟩

/-- An octet that was taken by itself. -/
def Taken.ofOctet {α : Type} (value : α) (octet : UInt8) (rest : List UInt8) :
    Taken α (octet :: rest) :=
  ⟨value, rest, Nat.lt_succ_self _⟩

/-- Reads a varint that continues with its seven-bit group number `index`.  The tenth group
has one bit, and there is no eleventh. -/
def takeVarintFrom (index : Nat) : (octets : List UInt8) → Except Fault (Taken Nat octets)
  | [] => .error .invalidVarint
  | octet :: rest =>
    if 9 ≤ index && 1 < octet.toNat then .error .invalidVarint
    else if octet.toNat < 0x80 then .ok (.ofOctet octet.toNat octet rest)
    else
      match takeVarintFrom (index + 1) rest with
      | .error fault => .error fault
      | .ok taken =>
        .ok (taken.afterOctet octet (octet.toNat - 0x80 + 0x80 * taken.value))

/-- Reads a varint: groups of seven bits, the lowest first, each in an octet whose highest
bit tells whether another one follows. -/
def takeVarint (octets : List UInt8) : Except Fault (Taken Nat octets) :=
  takeVarintFrom 0 octets

/-- What stands before the payload of a field. -/
structure Key where
  number : Nat
  wireType : WireType
deriving DecidableEq, Repr

/-- The key with a code. -/
def Key.ofCode (code : Nat) : Except Fault Key :=
  if 0x100000000 ≤ code then .error (.invalidKey code)
  else
    match WireType.ofCode? (code % 8) with
    | none => .error (.invalidWireType (code % 8))
    | some wireType =>
      if code / 8 = 0 then .error .invalidNumber else .ok ⟨code / 8, wireType⟩

/-- Reads a key. -/
def takeKey (octets : List UInt8) : Except Fault (Taken Key octets) :=
  match takeVarint octets with
  | .error fault => .error fault
  | .ok taken =>
    match Key.ofCode taken.value with
    | .error fault => .error fault
    | .ok key => .ok ⟨key, taken.rest, taken.shorter⟩

/-- The octets after the first ones, which were read. -/
def Left.ofTake (count : Nat) (octets : List UInt8) : Left (List UInt8) octets :=
  ⟨octets.take count, octets.drop count, by simp⟩

/-- Reads a number of octets. -/
def takeOctets (count : Nat) (octets : List UInt8) :
    Except Fault (Left (List UInt8) octets) :=
  if octets.length < count then .error .underflow else .ok (.ofTake count octets)

/-- Reads octets after their number. -/
def takeDelimited (octets : List UInt8) : Except Fault (Left (List UInt8) octets) :=
  match takeVarint octets with
  | .error fault => .error fault
  | .ok length => (takeOctets length.value length.rest).map length.toLeft.andThen

/-- Reads a text after the number of its octets. -/
def takeText (octets : List UInt8) : Except Fault (Left String octets) :=
  match takeDelimited octets with
  | .error fault => .error fault
  | .ok content =>
    match Text.Utf8.decode? content.value with
    | none => .error .invalidText
    | some text => .ok (content.withValue text)

/-- Passes over fields up to the end of a group, given how to pass over a field. -/
def skipGroup
    (skipField : Key → (octets : List UInt8) → Except Fault (Left Unit octets))
    (number : Nat) (octets : List UInt8) : Except Fault (Left Unit octets) :=
  match takeKey octets with
  | .error fault => .error fault
  | .ok key =>
    if key.value.wireType = .endGroup then
      if key.value.number = number then .ok (key.toLeft.withValue ())
      else .error .unexpectedEndGroup
    else
      match skipField key.value key.rest with
      | .error fault => .error fault
      | .ok field =>
        (skipGroup skipField number field.rest).map (key.toLeft.andThen field).andThen
termination_by octets.length
decreasing_by exact key.length_rest_lt field

/-- Passes over the payload of a field, where groups may be nested so many levels deep. -/
def skipField : (levels : Nat) → Key → (octets : List UInt8) →
    Except Fault (Left Unit octets)
  | 0, _, _ => .error .tooDeep
  | levels + 1, key, octets =>
    match key.wireType with
    | .varint => (takeVarint octets).map fun taken => taken.toLeft.withValue ()
    | .sixtyFourBit => (takeOctets 8 octets).map fun left => left.withValue ()
    | .thirtyTwoBit => (takeOctets 4 octets).map fun left => left.withValue ()
    | .lengthDelimited => (takeDelimited octets).map fun left => left.withValue ()
    | .startGroup => skipGroup (skipField levels) key.number octets
    | .endGroup => .error .unexpectedEndGroup

end ServiceBindings.Wire
