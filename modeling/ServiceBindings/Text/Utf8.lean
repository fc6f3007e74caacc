/-!
# UTF-8

Texts as octets and back.  Reading cuts the octets into parts, each of them either one
well-formed character or a longest beginning of one that goes no further; a strict reader
accepts no part of the second kind, a lenient reader shows each as U+FFFD.
-/

namespace ServiceBindings.Text.Utf8

/-- The octets of a text. -/
def encode (text : String) : List UInt8 :=
  text.toList.flatMap String.utf8EncodeChar

/-- The inclusive bounds of a continuation octet that has no further restriction. -/
def continuation : Nat × Nat := (0x80, 0xBF)

/-- What a leading octet announces: its payload and the bounds of the octets that follow.
The second octet is bounded more tightly after `E0`, `ED`, `F0` and `F4`, which rules out
overlong forms, surrogates and code points beyond U+10FFFF. -/
def leadForm (lead : Nat) : Option (Nat × List (Nat × Nat)) :=
  if lead < 0x80 then some (lead, [])
  else if lead < 0xC2 then none
  else if lead < 0xE0 then some (lead - 0xC0, [continuation])
  else if lead = 0xE0 then some (0, [(0xA0, 0xBF), continuation])
  else if lead = 0xED then some (0xD, [(0x80, 0x9F), continuation])
  else if lead < 0xF0 then some (lead - 0xE0, [continuation, continuation])
  else if lead = 0xF0 then some (0, [(0x90, 0xBF), continuation, continuation])
  else if lead < 0xF4 then some (lead - 0xF0, [continuation, continuation, continuation])
  else if lead = 0xF4 then some (4, [(0x80, 0x8F), continuation, continuation])
  else none

/-- Reads the octets that follow a leading one, as far as they keep to their bounds, and
returns the code point if all are there, with the octets that were not read. -/
def gather (code : Nat) : List (Nat × Nat) → List UInt8 → Option Nat × List UInt8
  | [], octets => (some code, octets)
  | _ :: _, [] => (none, [])
  | (low, high) :: bounds, octet :: octets =>
    if low ≤ octet.toNat && octet.toNat ≤ high then
      gather (code * 64 + (octet.toNat - 0x80)) bounds octets
    else (none, octet :: octets)

theorem length_gather_le (code : Nat) (bounds : List (Nat × Nat)) (octets : List UInt8) :
    (gather code bounds octets).2.length ≤ octets.length := by
  induction bounds generalizing code octets with
  | nil => simp [gather]
  | cons bound bounds ih =>
      obtain ⟨low, high⟩ := bound
      cases octets with
      | nil => simp [gather]
      | cons octet octets =>
          simp only [gather]
          split
          · exact Nat.le_succ_of_le (ih _ _)
          · exact Nat.le_refl _

/-- The first part of a nonempty list of octets, a character or a broken one, and the rest. -/
def firstPart (lead : UInt8) (octets : List UInt8) : Option Char × List UInt8 :=
  match leadForm lead.toNat with
  | none => (none, octets)
  | some (payload, bounds) =>
    let read := gather payload bounds octets
    (read.1.map Char.ofNat, read.2)

theorem length_firstPart_le (lead : UInt8) (octets : List UInt8) :
    (firstPart lead octets).2.length ≤ octets.length := by
  unfold firstPart
  split
  · exact Nat.le_refl _
  · exact length_gather_le _ _ _

/-- The parts of a list of octets in order: characters, and `none` for each broken part. -/
def parts : List UInt8 → List (Option Char)
  | [] => []
  | lead :: octets => (firstPart lead octets).1 :: parts (firstPart lead octets).2
termination_by octets => octets.length
decreasing_by
  have shorter := length_firstPart_le lead octets
  simp only [List.length_cons]
  omega

/-- The characters of parts of which none is broken. -/
def unbroken : List (Option Char) → Option (List Char)
  | [] => some []
  | none :: _ => none
  | some c :: rest => (unbroken rest).map (c :: ·)

/-- The text that the octets encode, if they are well-formed. -/
def decode? (octets : List UInt8) : Option String :=
  (unbroken (parts octets)).map String.ofList

/-- The text of the octets with U+FFFD in the place of every broken part. -/
def decodeLossy (octets : List UInt8) : String :=
  String.ofList ((parts octets).map (·.getD '\uFFFD'))

end ServiceBindings.Text.Utf8
