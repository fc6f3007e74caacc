import ServiceBindings.Proofs.Path
import ServiceBindings.Proofs.Text.Trim

/-!
# Regrouped joins

Segments can be joined group by group: the joined groups are joined to the same path as all
segments at once.  Nothing is left of a join only if nothing but slashes went into it.
-/

namespace ServiceBindings

namespace Text

/-- Whether a text has no other character than the one that is unwanted. -/
def IsOnly (unwanted : Char) (text : String) : Prop :=
  ∀ c ∈ text.toList, c = unwanted

theorem trimBoth_eq_empty_iff {unwanted : Char} {text : String} :
    trimBoth unwanted text = "" ↔ IsOnly unwanted text := by
  rw [← String.toList_inj, trimBoth, String.toList_ofList, String.toList_empty]
  constructor
  · intro isEmpty c member
    by_contra wanted
    obtain ⟨front, back, isSplit⟩ := List.append_of_mem member
    have stripped : stripEnds (· == unwanted) (front ++ c :: back) =
        front.dropWhile (· == unwanted) ++ c :: back.rdropWhile (· == unwanted) :=
      stripEnds_append_cons (by simpa using wanted)
    rw [isSplit, stripped] at isEmpty
    exact List.append_ne_nil_of_right_ne_nil _ (List.cons_ne_nil c _) isEmpty
  · intro isOnly
    have dropped : ∀ c ∈ text.toList, (c == unwanted) = true := by simpa [IsOnly] using isOnly
    rw [stripEnds_eq, List.dropWhile_eq_nil_iff.mpr dropped, List.rdropWhile_nil]

end Text

namespace Path

theorem parts_eq_nil_iff {segments : List String} :
    parts segments = [] ↔ ∀ segment ∈ segments, Text.IsOnly '/' segment := by
  simp [parts, Text.trimBoth_eq_empty_iff]

theorem join_flatten (groups : List (List String)) :
    join groups.flatten = join (groups.map join) := by
  induction groups with
  | nil => rfl
  | cons group rest ih =>
      calc join (group :: rest).flatten = join [join group, join rest.flatten] :=
            join_append group rest.flatten
        _ = join [join group, join (rest.map join)] := by rw [ih]
        _ = join (join group :: rest.map join) := (join_cons (join group) (rest.map join)).symm

/-- Joins can be regrouped, a joined path neither starts nor ends with a slash, and it is empty
exactly if every segment consists of slashes only. -/
theorem join_regroups_trimmed :
    (∀ front back, join (front ++ back) = join [join front, join back]) ∧
    (∀ groups : List (List String), join groups.flatten = join (groups.map join)) ∧
    ∀ segments, (join segments).toList.head? ≠ some '/' ∧
      (join segments).toList.getLast? ≠ some '/' ∧
      (join segments = "" ↔ ∀ segment ∈ segments, ∀ c ∈ segment.toList, c = '/') := by
  refine ⟨join_append, join_flatten, ?_⟩
  intro segments
  have trimmed := isTrimmed_join segments
  refine ⟨trimmed.first, trimmed.last, ?_⟩
  rw [join_eq_empty_iff, parts_eq_nil_iff]
  rfl

end Path

end ServiceBindings
