import ServiceBindings.NamespaceTable
import ServiceBindings.Proofs.Dictionary

/-!
# What a namespace table holds

A table holds at each full name the namespace of the first declaration of that name.  If all
declarations of a name agree on the namespace, the order of the declarations is therefore of
no consequence, and neither is the order of the files that they come from.
-/

namespace ServiceBindings

open Schema (File)

namespace NamespaceTable

/-- Whether declarations of one name agree on the namespace. -/
def Agree (declarations : List Declaration) : Prop :=
  ∀ left ∈ declarations, ∀ right ∈ declarations,
    left.fullName = right.fullName → left.space = right.space

theorem find?_foldl_insertNew (declarations : List Declaration) (spaces : Dictionary String)
    (fullName : String) :
    (declarations.foldl (fun spaces declaration =>
        spaces.insertNew declaration.fullName declaration.space) spaces).find? fullName =
      (spaces.find? fullName).or
        ((declarations.find? (·.fullName == fullName)).map (·.space)) := by
  induction declarations generalizing spaces with
  | nil => simp
  | cons declaration rest ih =>
      rw [List.foldl_cons, ih, Dictionary.find?_insertNew, List.find?_cons]
      by_cases isName : declaration.fullName = fullName
      · subst isName
        cases spaces.find? declaration.fullName <;> simp
      · have different : fullName ≠ declaration.fullName := Ne.symm isName
        have notFound : (declaration.fullName == fullName) = false := by simpa using isName
        simp [different, notFound]

/-- A table holds the first declaration of every name. -/
theorem spaceOf?_ofDeclarations (declarations : List Declaration) (fullName : String) :
    (ofDeclarations declarations).spaceOf? fullName =
      (declarations.find? (·.fullName == fullName)).map (·.space) := by
  rw [spaceOf?, ofDeclarations, find?_foldl_insertNew]
  simp

theorem spaceOf?_eq_some_iff {declarations : List Declaration} (agree : Agree declarations)
    (fullName space : String) :
    (ofDeclarations declarations).spaceOf? fullName = some space ↔
      ⟨fullName, space⟩ ∈ declarations := by
  rw [spaceOf?_ofDeclarations, Option.map_eq_some_iff]
  constructor
  · intro given
    rcases given with ⟨declaration, found, rfl⟩
    have isName : declaration.fullName = fullName := by
      simpa using List.find?_some found
    subst isName
    exact List.mem_of_find?_eq_some found
  · intro member
    cases found : declarations.find? (·.fullName == fullName) with
    | none =>
        have absent := List.find?_eq_none.mp found _ member
        simp at absent
    | some declaration =>
        have isName : declaration.fullName = fullName := by
          simpa using List.find?_some found
        exact ⟨declaration, rfl, agree _ (List.mem_of_find?_eq_some found) _ member isName⟩

theorem ofDeclarations_eq_of_perm {declarations shuffled : List Declaration}
    (permuted : declarations.Perm shuffled) (agree : Agree declarations) :
    ofDeclarations declarations = ofDeclarations shuffled := by
  have agreeShuffled : Agree shuffled := by
    intro left leftMember right rightMember
    exact agree left (permuted.mem_iff.mpr leftMember) right (permuted.mem_iff.mpr rightMember)
  have sameView : ∀ fullName,
      (ofDeclarations declarations).spaceOf? fullName =
        (ofDeclarations shuffled).spaceOf? fullName := by
    intro fullName
    apply Option.ext
    intro space
    rw [spaceOf?_eq_some_iff agree, spaceOf?_eq_some_iff agreeShuffled, permuted.mem_iff]
  have sameSpaces : (ofDeclarations declarations).spaces = (ofDeclarations shuffled).spaces :=
    Dictionary.ext_find? sameView
  exact congrArg NamespaceTable.mk sameSpaces

/-- The table of files does not depend on their order if declarations of one name agree. -/
theorem ofFiles_eq_of_perm {files shuffled : List File} (permuted : files.Perm shuffled)
    (agree : Agree (files.flatMap File.declarations)) : ofFiles files = ofFiles shuffled :=
  ofDeclarations_eq_of_perm (permuted.flatMap_right File.declarations) agree

end NamespaceTable

end ServiceBindings
