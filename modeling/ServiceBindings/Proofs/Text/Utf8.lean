import ServiceBindings.Dictionary
import ServiceBindings.Text.Utf8

/-!
# The order of octets

Texts are ordered by their code points.  UTF-8 keeps that order: comparing the octets of two
texts one by one gives the same answer, because a larger code point has more octets or starts
with larger ones, and no character begins with all the octets of another.
-/

namespace ServiceBindings.Text.Utf8

theorem ofNat_cons_lt_iff {left right : Nat} (leftIsOctet : left < 256) (rightIsOctet : right < 256)
    (leftRest rightRest : List UInt8) :
    UInt8.ofNat left :: leftRest < UInt8.ofNat right :: rightRest ↔
      left < right ∨ left = right ∧ leftRest < rightRest := by
  rw [List.cons_lt_cons_iff, UInt8.lt_iff_toNat_lt, ← UInt8.toNat_inj, UInt8.toNat_ofNat',
    UInt8.toNat_ofNat', Nat.mod_eq_of_lt leftIsOctet, Nat.mod_eq_of_lt rightIsOctet]

/-- Whatever follows, the octets of a smaller character come before those of a larger one. -/
theorem utf8EncodeChar_append_lt {left right : Char} (less : left < right)
    (leftRest rightRest : List UInt8) :
    String.utf8EncodeChar left ++ leftRest < String.utf8EncodeChar right ++ rightRest := by
  have lessCode : left.val.toNat < right.val.toNat := less
  have rightIsChar : right.val.toNat < 0x110000 := by
    have valid := right.valid
    unfold UInt32.isValidChar Nat.isValidChar at valid
    omega
  have thirdPlace (code : Nat) : code / 4096 = code / 64 / 64 := by
    rw [Nat.div_div_eq_div_mul]
  have fourthPlace (code : Nat) : code / 262144 = code / 64 / 64 / 64 := by
    rw [Nat.div_div_eq_div_mul, Nat.div_div_eq_div_mul]
  simp only [String.utf8EncodeChar, thirdPlace, fourthPlace]
  -- one case for every pair of numbers of octets
  repeat' split
  all_goals
    simp (disch := omega) only [List.cons_append, List.nil_append, ofNat_cons_lt_iff]
    omega

theorem flatMap_utf8EncodeChar_lt {left right : List Char} (less : left < right) :
    left.flatMap String.utf8EncodeChar < right.flatMap String.utf8EncodeChar := by
  induction left generalizing right with
  | nil =>
      cases right with
      | nil => exact absurd less (List.lt_irrefl [])
      | cons first rest =>
          have nonempty : (first :: rest).flatMap String.utf8EncodeChar ≠ [] := by simp
          obtain ⟨octet, octets, isCons⟩ := List.exists_cons_of_ne_nil nonempty
          rw [isCons]
          exact List.nil_lt_cons octet octets
  | cons leftFirst leftRest ih =>
      cases right with
      | nil => exact absurd less (List.not_lt_nil _)
      | cons rightFirst rightRest =>
          rw [List.flatMap_cons, List.flatMap_cons]
          cases List.cons_lt_cons_iff.mp less with
          | inl lessFirst => exact utf8EncodeChar_append_lt lessFirst _ _
          | inr given =>
              rw [given.1]
              exact List.append_left_lt (ih given.2)

/-- The order of two texts is the order of their octets. -/
theorem encode_lt_encode_iff (left right : String) :
    encode left < encode right ↔ left < right := by
  have forward {first second : String} (less : first < second) : encode first < encode second :=
    flatMap_utf8EncodeChar_lt (String.lt_iff.mp less)
  constructor
  · intro less
    apply Classical.byContradiction
    intro notLess
    have different : left ≠ right := by
      intro same
      rw [same] at less
      exact List.lt_irrefl _ less
    exact List.lt_asymm less (forward (Dictionary.lt_of_not_lt_of_ne notLess different))
  · exact forward

end ServiceBindings.Text.Utf8
