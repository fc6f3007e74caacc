import ServiceBindings.Disk.Resolution
import ServiceBindings.Proofs.Text.Segments

/-!
# Joined paths on a disk

A relative path behind another one continues it: the names of the joined path are those of both.
An absolute path does not continue anything; joined to another path it takes its place.
-/

namespace ServiceBindings.Disk

theorem steps_append_slash_append (front back : String) :
    steps (front ++ "/" ++ back) = steps front ++ steps back := by
  rw [steps, show "/" = String.singleton '/' from rfl, Text.segments_append_separator_append,
    List.filter_append, ← steps, ← steps]

theorem steps_append_slash (front : String) : steps (front ++ "/") = steps front := by
  have split := steps_append_slash_append front ""
  rw [String.append_empty] at split
  rw [split]
  exact List.append_nil _

theorem joinPath_of_isAbsolute (base : String) {rest : String} (absolute : isAbsolute rest = true) :
    joinPath base rest = rest := by
  rw [joinPath, if_pos (by simp [absolute])]

/-- A relative path is joined to the empty one, to one that ends in a slash, or to another one. -/
theorem joinPath_cases (base : String) {rest : String} (relative : isAbsolute rest = false) :
    (base = "" ∧ joinPath base rest = rest) ∨
      (∃ front, base = front ++ "/" ∧ joinPath base rest = front ++ "/" ++ rest) ∨
        (base ≠ "" ∧ joinPath base rest = base ++ "/" ++ rest) := by
  rw [joinPath, relative, Bool.false_or]
  by_cases isEmpty : base = ""
  · exact .inl ⟨isEmpty, if_pos (by simp [isEmpty])⟩
  · rw [if_neg (by simpa using isEmpty)]
    split
    · rename_i slash
      rw [beq_iff_eq, List.getLast?_eq_some_iff] at slash
      rcases slash with ⟨front, isList⟩
      have isBase : base = String.ofList front ++ "/" := by
        apply String.ext_iff.mpr
        simp [isList]
      exact .inr (.inl ⟨String.ofList front, isBase, by rw [← isBase]⟩)
    · exact .inr (.inr ⟨isEmpty, rfl⟩)

theorem isAbsolute_append {front : String} (nonempty : front ≠ "") (back : String) :
    isAbsolute (front ++ back) = isAbsolute front := by
  rw [isAbsolute, isAbsolute, String.toList_append,
    List.head?_append_of_ne_nil _ (by simpa using nonempty)]

theorem isAbsolute_joinPath (base : String) {rest : String} (relative : isAbsolute rest = false) :
    isAbsolute (joinPath base rest) = isAbsolute base := by
  rcases joinPath_cases base relative with ⟨rfl, isJoined⟩ | ⟨front, rfl, isJoined⟩ |
    ⟨nonempty, isJoined⟩
  · rw [isJoined, relative]
    rfl
  · rw [isJoined, isAbsolute_append (by simp)]
  · rw [isJoined, String.append_assoc, isAbsolute_append nonempty]

/-- What is joined to an absolute path is absolute. -/
theorem isAbsolute_joinPath_of_isAbsolute {base : String} (absolute : isAbsolute base = true)
    (rest : String) : isAbsolute (joinPath base rest) = true := by
  cases isRooted : isAbsolute rest with
  | false => rw [isAbsolute_joinPath base isRooted, absolute]
  | true => rw [joinPath_of_isAbsolute base isRooted, isRooted]

theorem steps_joinPath (base : String) {rest : String} (relative : isAbsolute rest = false) :
    steps (joinPath base rest) = steps base ++ steps rest := by
  rcases joinPath_cases base relative with ⟨rfl, isJoined⟩ | ⟨front, rfl, isJoined⟩ |
    ⟨_, isJoined⟩
  · rw [isJoined]
    rfl
  · rw [isJoined, steps_append_slash_append, steps_append_slash]
  · rw [isJoined, steps_append_slash_append]

end ServiceBindings.Disk
