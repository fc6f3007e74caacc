import ServiceBindings.Proofs.Path
import ServiceBindings.Proofs.Text.Letter
import ServiceBindings.Python

/-!
# Which Python files coincide

The bindings of two services are in one file if the schema files are in one directory and
the names of the services are the same in snake_case.
-/

namespace ServiceBindings

theorem Identifier.notMem_snakeCaseFrom {separator : Char} (before : separator.toNat < 0x41)
    {characters : List Char} (absent : separator ∉ characters) (previous : Option Char) :
    separator ∉ Identifier.snakeCaseFrom previous characters := by
  induction characters generalizing previous with
  | nil => simp [Identifier.snakeCaseFrom]
  | cons c rest ih =>
      rw [List.mem_cons, not_or] at absent
      have notUnderscore : separator ≠ '_' := by
        intro same
        subst same
        exact absurd before (by decide)
      have notInLowercase : separator ∉ Text.lowercaseOf c := by
        intro member
        exact absent.1 (Text.eq_of_mem_lowercaseOf member (by omega))
      have notInRest := ih absent.2 (some c)
      rw [Identifier.snakeCaseFrom]
      split
      · simp [notUnderscore, notInLowercase, notInRest]
      · simp [notInLowercase, notInRest]

theorem Identifier.notMem_snakeCase {separator : Char} (before : separator.toNat < 0x41)
    {name : String} (absent : separator ∉ name.toList) :
    separator ∉ (Identifier.snakeCase name).toList := by
  rw [Identifier.snakeCase, String.toList_ofList]
  exact Identifier.notMem_snakeCaseFrom before absent none

namespace Python

/-- The directory of the bindings of a schema file. -/
def sourceDirectory (fileName : String) : String :=
  Text.trimBoth '/' (Path.directoryAndStem fileName).1

/-- The path of the binding of a service. -/
def bindingPath (root : Option String) (fileName service : String) : String :=
  Path.join [root.getD "", (Path.directoryAndStem fileName).1, moduleFileName service]

theorem bindingPath_eq_iff (root : Option String) (leftFile rightFile : String)
    {left right : String} (leftAbsent : '/' ∉ left.toList) (rightAbsent : '/' ∉ right.toList) :
    bindingPath root leftFile left = bindingPath root rightFile right ↔
      sourceDirectory leftFile = sourceDirectory rightFile ∧
        Identifier.snakeCase left = Identifier.snakeCase right := by
  have fileAbsent : ∀ {service : String}, '/' ∉ service.toList →
      '/' ∉ (moduleFileName service).toList := by
    intro service absent
    have notInName := Identifier.notMem_snakeCase (by decide) absent
    simp [moduleFileName, notInName]
  have fileNonempty : ∀ service : String, moduleFileName service ≠ "" := by
    intro service
    simp [moduleFileName]
  have sameDirectory := Path.join_concat_left_inj [root.getD ""]
    (Path.directoryAndStem leftFile).1 (Path.directoryAndStem rightFile).1
  have samePath : Path.join ([root.getD "", (Path.directoryAndStem leftFile).1] ++
        [moduleFileName left]) =
      Path.join ([root.getD "", (Path.directoryAndStem rightFile).1] ++
        [moduleFileName right]) ↔ _ :=
    Path.join_concat_inj (fileNonempty left) (fileAbsent leftAbsent) (fileNonempty right)
      (fileAbsent rightAbsent)
  exact samePath.trans (and_congr sameDirectory (String.append_left_inj "_service.py"))

end Python

end ServiceBindings
