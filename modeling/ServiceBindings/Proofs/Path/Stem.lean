import ServiceBindings.Path
import ServiceBindings.Proofs.Text.Segments

/-!
# Stems of file names

The stem of a file name is what follows its last slash, up to the last dot in there.  If nothing
stands before that dot, as in the name of a hidden file, it belongs to the stem with all that
follows it.
-/

namespace ServiceBindings.Path

/-- Whether a text is what follows the last slash of a file name. -/
inductive IsBase (fileName : String) : String → Prop where
  | whole : '/' ∉ fileName.toList → IsBase fileName fileName
  | inside {directory base : String} :
      fileName = directory ++ "/" ++ base → '/' ∉ base.toList → IsBase fileName base

/-- Whether a text is what is left of a base name without its extension. -/
inductive IsWithoutExtension (base : String) : String → Prop where
  | whole : '.' ∉ base.toList → IsWithoutExtension base base
  | hidden {name : String} :
      base = "." ++ name → '.' ∉ name.toList → IsWithoutExtension base base
  | cut {stem extension : String} :
      base = stem ++ "." ++ extension → stem ≠ "" → '.' ∉ extension.toList →
      IsWithoutExtension base stem

/-- Whether a text is the stem of a file name. -/
def IsStem (fileName stem : String) : Prop :=
  ∃ base, IsBase fileName base ∧ IsWithoutExtension base stem

theorem exists_isBase (fileName : String) : ∃ base, IsBase fileName base := by
  obtain absent | ⟨directory, base, isSplit, absent⟩ := Text.absent_or_exists_last '/' fileName
  · exact ⟨fileName, .whole absent⟩
  · exact ⟨base, .inside isSplit absent⟩

theorem exists_isWithoutExtension (base : String) : ∃ stem, IsWithoutExtension base stem := by
  obtain absent | ⟨stem, extension, isSplit, absent⟩ := Text.absent_or_exists_last '.' base
  · exact ⟨base, .whole absent⟩
  · by_cases isEmpty : stem = ""
    · rw [isEmpty, String.empty_append] at isSplit
      exact ⟨base, .hidden isSplit absent⟩
    · exact ⟨stem, .cut isSplit isEmpty absent⟩

theorem exists_isStem (fileName : String) : ∃ stem, IsStem fileName stem := by
  obtain ⟨base, isBase⟩ := exists_isBase fileName
  obtain ⟨stem, isStem⟩ := exists_isWithoutExtension base
  exact ⟨stem, base, isBase, isStem⟩

variable {fileName base stem : String}

theorem IsBase.snd_cutLast? (isBase : IsBase fileName base) :
    ((Text.cutLast? '/' fileName).getD ("", fileName)).2 = base := by
  cases isBase with
  | whole absent => rw [Text.cutLast?_of_absent absent, Option.getD_none]
  | @inside directory _ isSplit absent =>
      have cut : Text.cutLast? '/' (directory ++ "/" ++ base) = some (directory, base) :=
        Text.cutLast?_append_separator_append directory absent
      rw [isSplit, cut, Option.getD_some]

theorem IsWithoutExtension.match_cutLast? (isStem : IsWithoutExtension base stem) :
    (match Text.cutLast? '.' base with
      | some (front, _) => if front.isEmpty then base else front
      | none => base) = stem := by
  cases isStem with
  | whole absent => rw [Text.cutLast?_of_absent absent]
  | @hidden name isSplit absent =>
      have cut : Text.cutLast? '.' ("" ++ "." ++ name) = some ("", name) :=
        Text.cutLast?_append_separator_append "" absent
      rw [String.empty_append] at cut
      rw [isSplit, cut]
      rfl
  | @cut _ extension isSplit nonempty absent =>
      have cut : Text.cutLast? '.' (stem ++ "." ++ extension) = some (stem, extension) :=
        Text.cutLast?_append_separator_append stem absent
      rw [isSplit, cut]
      exact if_neg (by simpa using nonempty)

theorem IsStem.snd_directoryAndStem (isStem : IsStem fileName stem) :
    (directoryAndStem fileName).2 = stem := by
  obtain ⟨base, isBase, isWithout⟩ := isStem
  rw [← isWithout.match_cutLast?, ← isBase.snd_cutLast?, directoryAndStem]
  obtain ⟨directory, name⟩ := (Text.cutLast? '/' fileName).getD ("", fileName)
  dsimp only
  cases Text.cutLast? '.' name with
  | none => rfl
  | some parts => rfl

/-- Every file name has exactly one stem. -/
theorem isStem_iff : IsStem fileName stem ↔ (directoryAndStem fileName).2 = stem := by
  constructor
  · exact IsStem.snd_directoryAndStem
  · rintro rfl
    obtain ⟨stem, isStem⟩ := exists_isStem fileName
    rwa [isStem.snd_directoryAndStem]

theorem IsStem.subset (isStem : IsStem fileName stem) : stem.toList ⊆ fileName.toList := by
  obtain ⟨base, isBase, isWithout⟩ := isStem
  have inBase : stem.toList ⊆ base.toList := by
    cases isWithout with
    | whole _ => exact List.Subset.refl _
    | hidden _ _ => exact List.Subset.refl _
    | cut isSplit _ _ => simp [isSplit, List.append_assoc]
  have inFileName : base.toList ⊆ fileName.toList := by
    cases isBase with
    | whole _ => exact List.Subset.refl _
    | inside isSplit _ => simp [isSplit]
  exact List.Subset.trans inBase inFileName

end ServiceBindings.Path
