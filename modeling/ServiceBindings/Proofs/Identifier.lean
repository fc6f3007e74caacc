import Mathlib.Data.List.Basic
import ServiceBindings.Identifier

/-!
# Qualified names

A namespace that is qualified by names one after the other is all of them joined with dots.
Only an empty namespace leaves nothing in front, and then the first name takes its place.
-/

namespace ServiceBindings.Identifier

theorem qualify_of_ne_empty {space : String} (nonempty : space ≠ "") (name : String) :
    qualify space name = space ++ "." ++ name := by
  simp [qualify, nonempty]

@[simp] theorem qualify_empty (name : String) : qualify "" name = name := rfl

theorem foldl_qualify_of_ne_empty {space : String} (nonempty : space ≠ "")
    (names : List String) :
    names.foldl qualify space = String.intercalate "." (space :: names) := by
  induction names generalizing space with
  | nil => simp
  | cons name rest ih =>
      have longer : qualify space name ≠ "" := by simp [qualify_of_ne_empty nonempty]
      rw [List.foldl_cons, ih longer, qualify_of_ne_empty nonempty, String.intercalate_cons_append,
        String.intercalate_cons_of_ne_nil (List.cons_ne_nil name rest)]

/-- A namespace qualified by names is the namespace and the names, joined with dots. -/
theorem foldl_qualify (space : String) {names : List String} (named : ∀ name ∈ names, name ≠ "") :
    names.foldl qualify space =
      String.intercalate "." (if space = "" then names else space :: names) := by
  by_cases isEmpty : space = ""
  · rw [if_pos isEmpty, isEmpty]
    cases names with
    | nil => rfl
    | cons first rest =>
        exact foldl_qualify_of_ne_empty (named first List.mem_cons_self) rest
  · rw [if_neg isEmpty, foldl_qualify_of_ne_empty isEmpty]

theorem qualify_foldl_dropLast (space : String) {names : List String} (nonempty : names ≠ []) :
    qualify (names.dropLast.foldl qualify space) (names.getLast nonempty) =
      names.foldl qualify space := by
  calc qualify (names.dropLast.foldl qualify space) (names.getLast nonempty)
      = (names.dropLast ++ [names.getLast nonempty]).foldl qualify space := by
        rw [List.foldl_concat]
    _ = names.foldl qualify space := by rw [List.dropLast_append_getLast]

/-- Qualifying joined names is qualifying the first of them. -/
theorem qualify_intercalate_cons (space first : String) (rest : List String) :
    qualify space (String.intercalate "." (first :: rest)) =
      String.intercalate "." (qualify space first :: rest) := by
  by_cases isEmpty : space = ""
  · simp [isEmpty]
  · rw [qualify_of_ne_empty isEmpty, qualify_of_ne_empty isEmpty, String.intercalate_cons_append]

end ServiceBindings.Identifier
