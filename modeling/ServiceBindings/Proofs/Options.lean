import ServiceBindings.Options
import ServiceBindings.Proofs.Text.Segments

/-!
# Options in one text and in several arguments

Options can be given as one list of fragments joined by commas, or as several arguments of which
each is such a list.  Both ways make the same assignments in the same order.
-/

namespace ServiceBindings.Options

/-- Command line arguments as one list of fragments. -/
def joined (arguments : List String) : String :=
  String.intercalate "," (arguments.map withoutDashes)

theorem assignments_append_comma_append (front back : String) :
    assignments (front ++ "," ++ back) = assignments front ++ assignments back := by
  have isCut : Text.segments ',' (front ++ "," ++ back) =
      Text.segments ',' front ++ Text.segments ',' back :=
    Text.segments_append_separator_append front back
  rw [assignments, isCut, List.filterMap_append]
  rfl

/-- The assignments of joined lists are those of the lists one after the other. -/
theorem assignments_intercalate (texts : List String) :
    assignments (String.intercalate "," texts) = texts.flatMap assignments := by
  induction texts with
  | nil => rfl
  | cons text rest ih =>
      rw [List.flatMap_cons]
      by_cases atEnd : rest = []
      · rw [atEnd, String.intercalate_singleton, List.flatMap_nil, List.append_nil]
      · rw [String.intercalate_cons_of_ne_nil atEnd, assignments_append_comma_append, ih]

theorem parse_joined (arguments : List String) :
    parse (joined arguments) = ofArguments arguments := by
  rw [parse, joined, assignments_intercalate, ofArguments, List.flatMap_map]

end ServiceBindings.Options
