import Mathlib.Data.List.DropRight
import ServiceBindings.Proofs.Text.Segments

/-!
# Trimmed texts and the parts around a separator

A character that is no white space stays where it is when a text is trimmed.  So a text can be
trimmed before or after it is cut at such a character: the trimmed parts are the same.
-/

namespace ServiceBindings.Text

section Lists

variable {α : Type} {drop : α → Bool}

theorem stripEnds_eq (drop : α → Bool) (items : List α) :
    stripEnds drop items = (items.dropWhile drop).rdropWhile drop := rfl

theorem dropWhile_append_cons (front back : List α) {item : α} (kept : drop item = false) :
    (front ++ item :: back).dropWhile drop = front.dropWhile drop ++ item :: back := by
  induction front with
  | nil => simp [kept]
  | cons first rest ih =>
      by_cases dropped : drop first
      · simpa [dropped] using ih
      · simp [dropped]

theorem rdropWhile_append_cons {front back : List α} {item : α} (kept : drop item = false) :
    (front ++ item :: back).rdropWhile drop = front ++ item :: back.rdropWhile drop := by
  have asDropped := dropWhile_append_cons back.reverse front.reverse kept
  simp [List.rdropWhile, asDropped]

/-- What is kept between the ends is kept together with everything between. -/
theorem stripEnds_append_cons {front back : List α} {item : α} (kept : drop item = false) :
    stripEnds drop (front ++ item :: back) =
      front.dropWhile drop ++ item :: back.rdropWhile drop := by
  rw [stripEnds_eq, dropWhile_append_cons front back kept, rdropWhile_append_cons kept]

theorem stripEnds_dropWhile (items : List α) :
    stripEnds drop (items.dropWhile drop) = stripEnds drop items := by
  rw [stripEnds_eq, stripEnds_eq, List.dropWhile_idempotent]

theorem stripEnds_rdropWhile (items : List α) :
    stripEnds drop (items.rdropWhile drop) = stripEnds drop items := by
  by_cases allDropped : ∀ item ∈ items, drop item = true
  · rw [List.rdropWhile_eq_nil_iff.mpr allDropped, stripEnds_eq, stripEnds_eq,
      List.dropWhile_eq_nil_iff.mpr allDropped]
    rfl
  · push Not at allDropped
    obtain ⟨item, member, isKept⟩ := allDropped
    have kept : drop item = false := by simpa using isKept
    obtain ⟨front, back, rfl⟩ := List.append_of_mem member
    rw [rdropWhile_append_cons kept, stripEnds_append_cons kept, stripEnds_append_cons kept,
      List.rdropWhile_idempotent]

end Lists

/-! ## Texts cut at their first separator -/

variable {separator : Char}

theorem cutFirst?_of_absent {text : String} (absent : separator ∉ text.toList) :
    cutFirst? separator text = none := by
  have noneLeft : text.toList.dropWhile (· != separator) = [] := by
    rw [List.dropWhile_eq_nil_iff]
    intro c member
    rw [bne_iff_ne]
    exact fun isSeparator => absent (isSeparator ▸ member)
  rw [cutFirst?, noneLeft]

theorem cutFirst?_append_separator_append {front : String} (absent : separator ∉ front.toList)
    (back : String) :
    cutFirst? separator (front ++ String.singleton separator ++ back) = some (front, back) := by
  have inside : ∀ c ∈ front.toList, (c != separator) = true := by
    intro c member
    rw [bne_iff_ne]
    exact fun isSeparator => absent (isSeparator ▸ member)
  rw [cutFirst?, String.toList_append, String.toList_append, List.append_assoc,
    List.dropWhile_append_of_pos inside, List.takeWhile_append_of_pos inside]
  simp

/-- A text with a separator is what is before the first one, the separator and the rest. -/
theorem exists_append_of_mem {text : String} (member : separator ∈ text.toList) :
    ∃ front back, text = front ++ String.singleton separator ++ back ∧
      separator ∉ front.toList := by
  obtain ⟨front, back, isText, absent⟩ := List.eq_append_cons_of_mem member
  refine ⟨String.ofList front, String.ofList back, ?_, by simpa using absent⟩
  rw [← String.toList_inj]
  simp [isText]

/-! ## Trimmed texts -/

theorem trim_eq_ofList (characters : List Char) :
    trim (String.ofList characters) = String.ofList (stripEnds isBlank characters) := by
  rw [trim, String.toList_ofList]

theorem notMem_trim {text : String} (absent : separator ∉ text.toList) :
    separator ∉ (trim text).toList := by
  rw [trim, String.toList_ofList, stripEnds_eq]
  intro member
  have notAtEnd := (List.rdropWhile_prefix isBlank _).sublist.mem member
  exact absent ((List.dropWhile_sublist isBlank).mem notAtEnd)

/-- A text that is trimmed and then cut at its first separator has the same parts as one that is
only cut, up to trimming. -/
theorem exists_cutFirst?_trim {front back : String} (visible : isBlank separator = false)
    (absent : separator ∉ front.toList) :
    ∃ first second, cutFirst? separator (trim (front ++ String.singleton separator ++ back)) =
        some (first, second) ∧ trim first = trim front ∧ trim second = trim back := by
  refine ⟨String.ofList (front.toList.dropWhile isBlank),
    String.ofList (back.toList.rdropWhile isBlank), ?_, ?_, ?_⟩
  · have isTrimmed : trim (front ++ String.singleton separator ++ back) =
        String.ofList (front.toList.dropWhile isBlank) ++ String.singleton separator ++
          String.ofList (back.toList.rdropWhile isBlank) := by
      rw [← String.toList_inj]
      simp [trim, stripEnds_append_cons visible]
    rw [isTrimmed]
    apply cutFirst?_append_separator_append
    rw [String.toList_ofList]
    exact fun member => absent ((List.dropWhile_sublist _).mem member)
  · rw [trim_eq_ofList, stripEnds_dropWhile, trim]
  · rw [trim_eq_ofList, stripEnds_rdropWhile, trim]

end ServiceBindings.Text
