import ServiceBindings.Text.Segments

/-!
# Lines of a text

Generated texts are lists of lines, each ended by a line break.  The lines can be read back
from the text as long as none of them has a line break inside.
-/

namespace ServiceBindings.Text

/-- The text of lines, each with a line break at its end. -/
def ofLines (lines : List String) : String := String.join (lines.map (· ++ "\n"))

/-- The lines of a text.  What follows the last line break is a line too. -/
def lines (text : String) : List String := segments '\n' text

/-- Whether a text has no line break inside. -/
def IsLine (text : String) : Prop := '\n' ∉ text.toList

instance (text : String) : Decidable (IsLine text) := inferInstanceAs (Decidable (_ ∉ _))

/-- Whether there is nothing but white space in a line. -/
def isBlankLine (line : String) : Bool := line.toList.all isBlank

@[simp] theorem ofLines_nil : ofLines [] = "" := rfl

@[simp] theorem ofLines_cons (line : String) (rest : List String) :
    ofLines (line :: rest) = line ++ "\n" ++ ofLines rest := by
  simp [ofLines]

@[simp] theorem ofLines_append (first second : List String) :
    ofLines (first ++ second) = ofLines first ++ ofLines second := by
  simp [ofLines]

@[simp] theorem ofLines_flatMap {α : Type} (items : List α) (linesOf : α → List String) :
    ofLines (items.flatMap linesOf) = String.join (items.map fun item => ofLines (linesOf item)) := by
  induction items with
  | nil => rfl
  | cons item rest ih => simp [ih]

@[simp] theorem isLine_append (first second : String) :
    IsLine (first ++ second) ↔ IsLine first ∧ IsLine second := by
  simp [IsLine]

theorem segments_append_separator (separator : Char) {first : String}
    (notInside : separator ∉ first.toList) (rest : String) :
    segments separator (first ++ (String.singleton separator ++ rest)) =
      first :: segments separator rest := by
  have cut := List.splitOn_append_cons_self_of_not_mem notInside rest.toList
  simp [segments, cut]

/-- Lines are read back one by one, whatever comes after them. -/
theorem lines_ofLines_append {front : List String} (areLines : ∀ line ∈ front, IsLine line)
    (rest : String) : lines (ofLines front ++ rest) = front ++ lines rest := by
  induction front with
  | nil => rw [ofLines_nil, String.empty_append, List.nil_append]
  | cons line others ih =>
      have isLine : IsLine line := areLines line List.mem_cons_self
      have cut := segments_append_separator '\n' isLine (ofLines others ++ rest)
      rw [ofLines_cons, String.append_assoc, String.append_assoc, lines]
      exact cut.trans (congrArg (line :: ·)
        (ih fun other member => areLines other (List.mem_cons_of_mem _ member)))

theorem lines_ofLines {all : List String} (areLines : ∀ line ∈ all, IsLine line) :
    lines (ofLines all) = all ++ [""] := by
  have cut := lines_ofLines_append areLines ""
  rwa [String.append_empty] at cut

theorem isBlankLine_eq_false {line : String} {c : Char} (inLine : c ∈ line.toList)
    (visible : isBlank c = false) : isBlankLine line = false := by
  rw [isBlankLine, List.all_eq_false]
  exact ⟨c, inLine, by simp [visible]⟩

end ServiceBindings.Text
