import ServiceBindings.Text.Letter

/-!
# Lowercase forms

Characters before the small a, among them all separators that generated texts and paths use, are
the lowercase form of no other character.
-/

namespace ServiceBindings.Text

theorem shiftedCode_cases (shifts : List CaseShift) (code : Nat) :
    shiftedCode code shifts = code ∨
      ∃ shift ∈ shifts, (shift.run.first : Int) + shift.offset ≤ shiftedCode code shifts ∧
        (shiftedCode code shifts : Int) ≤ max 0 (shift.run.last + shift.offset) := by
  induction shifts with
  | nil => exact .inl rfl
  | cons shift rest ih =>
      rw [shiftedCode]
      split
      · exact .inl rfl
      · split
        · rename_i inside
          simp only [CodeRun.contains, Bool.and_eq_true, decide_eq_true_eq] at inside
          refine .inr ⟨shift, by simp, ?_, ?_⟩ <;> omega
        · rcases ih with same | ⟨other, member, bounds⟩
          · exact .inl same
          · exact .inr ⟨other, by simp [member], bounds⟩

theorem lowercaseShifts_bounds : ∀ shift ∈ lowercaseShifts,
    0x61 ≤ shift.run.first + shift.offset ∧
      (shift.run.last + shift.offset < 0xD800 ∨
        0xE000 ≤ shift.run.first + shift.offset ∧ shift.run.last + shift.offset < 0x110000) := by
  decide +kernel

theorem shiftedCode_lowercaseShifts (code : Nat) :
    shiftedCode code lowercaseShifts = code ∨
      0x61 ≤ shiftedCode code lowercaseShifts ∧
        (shiftedCode code lowercaseShifts).isValidChar := by
  rcases shiftedCode_cases lowercaseShifts code with same | ⟨shift, member, above, below⟩
  · exact .inl same
  · have bounds := lowercaseShifts_bounds shift member
    right
    constructor
    · omega
    · unfold Nat.isValidChar
      omega

/-- A character before the small a comes only of itself. -/
theorem eq_of_mem_lowercaseOf {c lower : Char} (member : lower ∈ lowercaseOf c)
    (before : lower.toNat < 0x61) : lower = c := by
  rw [lowercaseOf] at member
  split at member
  · rcases List.mem_cons.mp member with rfl | inRest
    · exact absurd before (by decide)
    · rw [List.mem_singleton] at inRest
      subst inRest
      exact absurd before (by decide)
  · rw [List.mem_singleton] at member
    rcases shiftedCode_lowercaseShifts c.toNat with same | ⟨above, valid⟩
    · rw [member, same, Char.ofNat_toNat]
    · have code : lower.toNat = shiftedCode c.toNat lowercaseShifts := by
        rw [member, Char.ofNat, dif_pos valid]
        rfl
      omega

theorem notMem_flatMap_lowercaseOf {separator : Char} (before : separator.toNat < 0x61)
    {characters : List Char} (absent : separator ∉ characters) :
    separator ∉ characters.flatMap lowercaseOf := by
  intro member
  rcases List.mem_flatMap.mp member with ⟨c, inCharacters, inLowercase⟩
  have same : separator = c := eq_of_mem_lowercaseOf inLowercase before
  exact absent (same ▸ inCharacters)

end ServiceBindings.Text
