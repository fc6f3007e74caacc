import ServiceBindings.Proofs.NamespaceTable.Declaration

/-!
# Qualified references

A reference is qualified if it resolves to a namespace that is not empty.  That is less than being
found: the classes of a file may be in no namespace at all, and then the table holds the empty
namespace under the full names of its messages.
-/

namespace ServiceBindings

open Schema (File TypeName)

theorem Identifier.qualify_eq_empty_iff (space name : String) :
    qualify space name = "" ↔ space = "" ∧ name = "" := by
  by_cases isEmpty : space = ""
  · simp [isEmpty]
  · simp [isEmpty, qualify_of_ne_empty isEmpty]

theorem Identifier.foldl_qualify_eq_empty_iff (space : String) (names : List String) :
    names.foldl qualify space = "" ↔ space = "" ∧ ∀ name ∈ names, name = "" := by
  induction names generalizing space with
  | nil => simp
  | cons name rest ih =>
      rw [List.foldl_cons, ih, qualify_eq_empty_iff, List.forall_mem_cons, and_assoc]

namespace Schema.File

/-- Whether the class of the message that names lead to is in no namespace: neither a package nor
an outer class nor the name of an enclosing message stands in front of it. -/
structure IsUnplaced (file : File) (path : List String) : Prop where
  package : file.options.javaPackage.getD file.packageOrEmpty = ""
  outerClass : file.options.javaMultipleFiles = true ∨ file.outerClass = ""
  enclosing : ∀ name ∈ path.dropLast, name = ""

theorem space_eq_empty_iff (file : File) :
    file.space = "" ↔ file.options.javaPackage.getD file.packageOrEmpty = "" ∧
      (file.options.javaMultipleFiles = true ∨ file.outerClass = "") := by
  rw [space]
  cases file.options.javaMultipleFiles with
  | true => simp
  | false => simp [Identifier.qualify_eq_empty_iff]

theorem spaceAt_eq_empty_iff (file : File) (path : List String) :
    file.spaceAt path = "" ↔ file.IsUnplaced path := by
  rw [spaceAt, Identifier.foldl_qualify_eq_empty_iff, space_eq_empty_iff]
  constructor
  · intro given
    exact ⟨given.1.1, given.1.2, given.2⟩
  · intro unplaced
    exact ⟨⟨unplaced.package, unplaced.outerClass⟩, unplaced.enclosing⟩

end Schema.File

namespace NamespaceTable

/-- Whether the message that names lead to in a file is the first one with a full name. -/
def IsFirst (files : List File) (fullName : String) (file : File) (path : List String) : Prop :=
  ∃ before after, declaredIn files = before ++ (file, path) :: after ∧
    (∀ earlier ∈ before, earlier.1.nameAt earlier.2 ≠ fullName) ∧ file.nameAt path = fullName

theorem spaceOf?_ofFiles_eq_some_iff_isFirst (files : List File) (fullName space : String) :
    (ofFiles files).spaceOf? fullName = some space ↔
      ∃ file path, IsFirst files fullName file path ∧ file.spaceAt path = space := by
  rw [spaceOf?_ofFiles_eq_some_iff]
  constructor
  · intro given
    obtain ⟨before, file, path, after, split, noneBefore, isName, isSpace⟩ := given
    exact ⟨file, path, ⟨before, after, split, noneBefore, isName⟩, isSpace⟩
  · intro given
    obtain ⟨file, path, ⟨before, after, split, noneBefore, isName⟩, isSpace⟩ := given
    exact ⟨before, file, path, after, split, noneBefore, isName, isSpace⟩

theorem isQualified_resolve_iff (table : NamespaceTable) (type : TypeName) :
    (table.resolve type).isQualified = true ↔
      ∃ space, table.spaceOf? type.fullName = some space ∧ space ≠ "" := by
  rw [resolve, ClassName.isQualified]
  cases table.spaceOf? type.fullName with
  | none => simp
  | some space => simp

/-- A reference is qualified exactly if it is found and the class that it is found as, that of the
first message of the full name, is in some namespace. -/
theorem isQualified_resolve_iff_found (files : List File) (type : TypeName) :
    ((ofFiles files).resolve type).isQualified = true ↔
      ((ofFiles files).spaceOf? type.fullName).isSome = true ∧
        ∀ file path, IsFirst files type.fullName file path → ¬file.IsUnplaced path := by
  rw [isQualified_resolve_iff]
  constructor
  · intro qualified
    obtain ⟨space, found, nonempty⟩ := qualified
    refine ⟨Option.isSome_of_eq_some found, ?_⟩
    intro file path isFirst unplaced
    have alsoFound : (ofFiles files).spaceOf? type.fullName = some (file.spaceAt path) :=
      (spaceOf?_ofFiles_eq_some_iff_isFirst files _ _).mpr ⟨file, path, isFirst, rfl⟩
    rw [alsoFound, Option.some.injEq, (file.spaceAt_eq_empty_iff path).mpr unplaced] at found
    exact nonempty found.symm
  · intro given
    obtain ⟨isFound, placed⟩ := given
    obtain ⟨space, found⟩ := Option.isSome_iff_exists.mp isFound
    obtain ⟨file, path, isFirst, rfl⟩ := (spaceOf?_ofFiles_eq_some_iff_isFirst files _ _).mp found
    refine ⟨_, found, ?_⟩
    intro isEmpty
    exact placed file path isFirst ((file.spaceAt_eq_empty_iff path).mp isEmpty)

/-- The message of a file without a package is found, but not qualified, if no outer class is asked
for. -/
theorem found_but_not_qualified :
    let search : File := ⟨"search.proto", none, ⟨none, true, none⟩, [⟨"Query", []⟩], [], []⟩
    ((ofFiles [search]).spaceOf? "Query").isSome = true ∧
      ((ofFiles [search]).resolve ⟨"Query"⟩).isQualified = false := by
  decide

end NamespaceTable

end ServiceBindings
