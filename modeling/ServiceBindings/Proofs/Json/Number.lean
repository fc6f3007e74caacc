import Mathlib.Data.List.Basic
import ServiceBindings.Json.Value

/-!
# Characters of numbers

A number is written with few different characters: an integer with digits and a sign, and a double
with a point and the letter of an exponent beside these.
-/

namespace ServiceBindings.Json

/-- Whether a character may stand in the text of a number. -/
def isFigure (c : Char) : Bool := c.isDigit || c == '-' || c == '+' || c == '.' || c == 'e'

theorem lt_of_isFigure {c : Char} (figure : isFigure c = true) : ' ' < c := by
  simp only [isFigure, Bool.or_eq_true, beq_iff_eq] at figure
  rcases figure with (((isDigit | rfl) | rfl) | rfl) | rfl
  · rw [Char.isDigit, Bool.and_eq_true, decide_eq_true_eq] at isDigit
    exact Nat.lt_of_lt_of_le (by decide) isDigit.1
  all_goals decide

theorem isFigure_of_mem_toDigits {n : Nat} {c : Char} (member : c ∈ Nat.toDigits 10 n) :
    isFigure c = true := by
  have isDigit : c.isDigit = true := Nat.isDigit_of_mem_toDigits (by decide) (by decide) member
  simp [isFigure, isDigit]

/-- The characters of an integer are digits, with a sign before them if it is negative. -/
theorem isDigit_or_eq_of_mem_toString {value : Int} {c : Char}
    (member : c ∈ (toString value).toList) : c.isDigit = true ∨ c = '-' := by
  have digits {n : Nat} (inDigits : c ∈ n.repr.toList) : c.isDigit = true := by
    rw [Nat.repr_eq_ofList_toDigits, String.toList_ofList] at inDigits
    exact Nat.isDigit_of_mem_toDigits (by decide) (by decide) inDigits
  cases value with
  | ofNat n => exact .inl (digits member)
  | negSucc n =>
      change c ∈ ("-" ++ n.succ.repr).toList at member
      rw [String.toList_append, List.mem_append] at member
      cases member with
      | inl isSign => exact .inr (List.mem_singleton.mp isSign)
      | inr inDigits => exact .inl (digits inDigits)

namespace Decimal

theorem mem_of_mem_withoutTrailingZeros {figures : List Char} {c : Char}
    (member : c ∈ withoutTrailingZeros figures) : c ∈ figures := by
  rw [withoutTrailingZeros, List.mem_reverse] at member
  exact List.mem_reverse.mp (List.dropWhile_subset _ member)

theorem isFigure_of_mem_positional {decimal : Decimal} {c : Char}
    (member : c ∈ decimal.positional.toList) : isFigure c = true := by
  have zeros {n : Nat} (inZeros : c ∈ List.replicate n '0') : isFigure c = true := by
    rw [(List.mem_replicate.mp inZeros).2]
    decide
  have padded {n : Nat} (inPadded : c ∈ List.replicate n '0' ++
      (Nat.toDigits 10 decimal.digits ++ List.replicate decimal.exponent.toNat '0')) :
      isFigure c = true := by
    rw [List.mem_append, List.mem_append] at inPadded
    rcases inPadded with inZeros | inDigits | inZeros
    · exact zeros inZeros
    · exact isFigure_of_mem_toDigits inDigits
    · exact zeros inZeros
  rw [positional, String.toList_ofList, List.mem_append, List.mem_cons] at member
  rcases member with inWhole | isPoint | inFraction
  · exact padded (List.mem_of_mem_take inWhole)
  · rw [isPoint]
    decide
  · split at inFraction
    · rw [List.mem_singleton.mp inFraction]
      decide
    · exact padded (List.mem_of_mem_drop (mem_of_mem_withoutTrailingZeros inFraction))

theorem isFigure_of_mem_exponential {decimal : Decimal} {c : Char}
    (member : c ∈ decimal.exponential.toList) : isFigure c = true := by
  have figures (inFigures : c ∈ withoutTrailingZeros (Nat.toDigits 10 decimal.digits)) :
      isFigure c = true :=
    isFigure_of_mem_toDigits (mem_of_mem_withoutTrailingZeros inFigures)
  rw [exponential, String.toList_ofList] at member
  simp only [List.mem_append, List.mem_cons] at member
  rcases member with (inLeading | inFraction) | isLetter | isSign | inExponent
  · exact figures (List.mem_of_mem_take inLeading)
  · split at inFraction
    · cases inFraction
    · cases List.mem_cons.mp inFraction with
      | inl isPoint =>
          rw [isPoint]
          decide
      | inr inRest => exact figures (List.mem_of_mem_drop inRest)
  · rw [isLetter]
    decide
  · split at isSign <;> (rw [List.mem_singleton.mp isSign]; decide)
  · exact isFigure_of_mem_toDigits inExponent

theorem isFigure_of_mem_text {decimal : Decimal} {c : Char} (member : c ∈ decimal.text.toList) :
    isFigure c = true := by
  rw [text] at member
  split at member
  · exact isFigure_of_mem_positional member
  · exact isFigure_of_mem_exponential member

end Decimal

theorem Double.isFigure_of_mem_text {double : Double} {c : Char}
    (member : c ∈ double.text.toList) : isFigure c = true := by
  have unsigned (inUnsigned : c ∈ (if double.significand = 0 then "0.0" else
      double.shortest.text).toList) : isFigure c = true := by
    split at inUnsigned
    · have zero : "0.0".toList.all isFigure = true := by decide
      exact List.all_eq_true.mp zero c inUnsigned
    · exact Decimal.isFigure_of_mem_text inUnsigned
  rw [text] at member
  split at member
  · rw [String.toList_append, List.mem_append] at member
    cases member with
    | inl isSign =>
        rw [List.mem_singleton.mp isSign]
        decide
    | inr inUnsigned => exact unsigned inUnsigned
  · exact unsigned member

theorem Number.isFigure_of_mem_text {number : Number} {c : Char}
    (member : c ∈ number.text.toList) : isFigure c = true := by
  cases number with
  | integer value =>
      cases isDigit_or_eq_of_mem_toString member with
      | inl isDigit => simp [isFigure, isDigit]
      | inr isSign =>
          rw [isSign]
          decide
  | double value => exact Double.isFigure_of_mem_text member

end ServiceBindings.Json
