import ServiceBindings.Proofs.Identifier
import ServiceBindings.Proofs.NamespaceTable
import ServiceBindings.Proofs.Schema.Nesting
import ServiceBindings.Proofs.Text.Utf8

/-!
# Declared messages

The full name and the namespace of a message follow from its file and the names that lead to
it.  A table of files holds exactly the full names that occur at any depth, each with the
namespace of the first message that has it.
-/

namespace ServiceBindings

open Schema (File Message)

namespace Schema.File

/-- The full name of the message that names lead to: the names joined with dots, in the package
of the file. -/
def nameAt (file : File) (path : List String) : String :=
  file.qualify (String.intercalate "." path)

/-- The namespace of the class of the message that names lead to: that of the file, qualified by
the names of the enclosing messages. -/
def spaceAt (file : File) (path : List String) : String :=
  path.dropLast.foldl Identifier.qualify file.space

end Schema.File

namespace Schema.Message

mutual

theorem declarations_eq_map_paths (fullName space : String) : (message : Message) →
    message.declarations fullName space = message.paths.map fun path =>
      ⟨String.intercalate "." (fullName :: path.tail), path.dropLast.foldl Identifier.qualify space⟩
  | ⟨name, nested⟩ => by
    rw [declarations, paths, List.map_cons, List.map_map,
      nestedDeclarations_eq_map_pathsIn fullName (Identifier.qualify space name) nested]
    apply congrArg₂ List.cons
    · simp
    · apply List.map_congr_left
      intro inner member
      have nonempty : inner ≠ [] := ((mem_pathsIn_iff inner nested).mp member).ne_nil
      rw [Function.comp_apply, List.tail_cons, List.dropLast_cons_of_ne_nil nonempty,
        List.foldl_cons]

theorem nestedDeclarations_eq_map_pathsIn (outer space : String) : (messages : List Message) →
    nestedDeclarations outer space messages = (pathsIn messages).map fun path =>
      ⟨String.intercalate "." (outer :: path), path.dropLast.foldl Identifier.qualify space⟩
  | [] => by rw [nestedDeclarations, pathsIn, List.map_nil]
  | message :: rest => by
    rw [nestedDeclarations, pathsIn, List.map_append,
      declarations_eq_map_paths (outer ++ "." ++ message.name) space message,
      nestedDeclarations_eq_map_pathsIn outer space rest]
    apply congrArg (· ++ _)
    apply List.map_congr_left
    intro path member
    have isCons := eq_cons_of_mem_paths member
    rw [String.intercalate_cons_append, isCons,
      String.intercalate_cons_of_ne_nil (List.cons_ne_nil _ _), List.tail_cons]

end

end Schema.Message

/-- The declarations of a file are those of the paths to its messages. -/
theorem Schema.File.declarations_eq (file : File) :
    file.declarations = (Message.pathsIn file.messages).map fun path =>
      ⟨file.nameAt path, file.spaceAt path⟩ := by
  rw [File.declarations, Message.pathsIn_eq_flatMap, List.map_flatMap]
  apply List.flatMap_congr
  intro message _
  rw [Message.declarations_eq_map_paths]
  apply List.map_congr_left
  intro path member
  have isCons := Message.eq_cons_of_mem_paths member
  rw [File.nameAt, File.spaceAt, isCons, File.qualify, File.qualify,
    Identifier.qualify_intercalate_cons, List.tail_cons]

namespace NamespaceTable

/-- The messages that files declare, each with its file and the names that lead to it: file by
file, and in pre-order within a file. -/
def declaredIn (files : List File) : List (File × List String) :=
  files.flatMap fun file => (Message.pathsIn file.messages).map (file, ·)

theorem mem_declaredIn_iff {files : List File} {file : File} {path : List String} :
    (file, path) ∈ declaredIn files ↔ file ∈ files ∧ Message.Leads file.messages path := by
  simp [declaredIn, Message.mem_pathsIn_iff]

theorem flatMap_declarations_eq (files : List File) :
    files.flatMap File.declarations = (declaredIn files).map fun (file, path) =>
      ⟨file.nameAt path, file.spaceAt path⟩ := by
  simp only [declaredIn, List.map_flatMap, List.map_map, Function.comp_def]
  exact List.flatMap_congr fun file _ => file.declarations_eq

/-- A table holds under a full name the namespace of the first declared message of that name. -/
theorem spaceOf?_ofFiles_eq_some_iff (files : List File) (fullName space : String) :
    (ofFiles files).spaceOf? fullName = some space ↔
      ∃ before file path after, declaredIn files = before ++ (file, path) :: after ∧
        (∀ earlier ∈ before, earlier.1.nameAt earlier.2 ≠ fullName) ∧
        file.nameAt path = fullName ∧ file.spaceAt path = space := by
  rw [ofFiles, spaceOf?_ofDeclarations, flatMap_declarations_eq, List.find?_map, Option.map_map,
    Option.map_eq_some_iff]
  constructor
  · intro given
    obtain ⟨⟨file, path⟩, found, isSpace⟩ := given
    obtain ⟨isName, before, after, split, noneBefore⟩ := List.find?_eq_some_iff_append.mp found
    refine ⟨before, file, path, after, split, ?_, by simpa using isName, isSpace⟩
    intro earlier member
    simpa using noneBefore earlier member
  · intro given
    obtain ⟨before, file, path, after, split, noneBefore, isName, isSpace⟩ := given
    refine ⟨(file, path), List.find?_eq_some_iff_append.mpr ⟨?_, before, after, split, ?_⟩, isSpace⟩
    · simpa using isName
    · intro earlier member
      simpa using noneBefore earlier member

theorem isSome_spaceOf?_ofFiles_iff (files : List File) (fullName : String) :
    ((ofFiles files).spaceOf? fullName).isSome ↔
      ∃ file ∈ files, ∃ path, Message.Leads file.messages path ∧ file.nameAt path = fullName := by
  rw [ofFiles, spaceOf?_ofDeclarations, Option.isSome_map, List.find?_isSome,
    flatMap_declarations_eq]
  constructor
  · intro given
    obtain ⟨declaration, member, isName⟩ := given
    obtain ⟨⟨file, path⟩, declared, rfl⟩ := List.mem_map.mp member
    obtain ⟨fileMember, leads⟩ := mem_declaredIn_iff.mp declared
    exact ⟨file, fileMember, path, leads, by simpa using isName⟩
  · intro given
    obtain ⟨file, fileMember, path, leads, isName⟩ := given
    refine ⟨_, List.mem_map_of_mem (mem_declaredIn_iff.mpr ⟨fileMember, leads⟩), ?_⟩
    simpa using isName

/-- What the table of schema files holds.

* A full name is in the table exactly when some names lead to a message of that full name, in any
  file and at any depth; it does not matter whether the names of the enclosing messages were taken
  before.
* Its namespace is that of the first such message, file by file and in pre-order within a file.
* The entries are what the table holds, in strictly ascending order of the octets of full names. -/
theorem ofFiles_holds_first_declarations (files : List File) :
    (∀ fullName, ((ofFiles files).spaceOf? fullName).isSome ↔
      ∃ file ∈ files, ∃ path, Message.Leads file.messages path ∧ file.nameAt path = fullName) ∧
    (∀ fullName space, (ofFiles files).spaceOf? fullName = some space ↔
      ∃ before file path after, declaredIn files = before ++ (file, path) :: after ∧
        (∀ earlier ∈ before, earlier.1.nameAt earlier.2 ≠ fullName) ∧
        file.nameAt path = fullName ∧ file.spaceAt path = space) ∧
    (∀ fullName space, (fullName, space) ∈ (ofFiles files).spaces.entries ↔
      (ofFiles files).spaceOf? fullName = some space) ∧
    (ofFiles files).spaces.entries.Pairwise fun earlier later =>
      Text.Utf8.encode earlier.1 < Text.Utf8.encode later.1 := by
  refine ⟨isSome_spaceOf?_ofFiles_iff files, spaceOf?_ofFiles_eq_some_iff files, ?_, ?_⟩
  · intro fullName space
    exact (Dictionary.find?_eq_some_iff_mem _ fullName space).symm
  · apply (ofFiles files).spaces.ascending.imp
    intro earlier later ascends
    exact (Text.Utf8.encode_lt_encode_iff earlier.1 later.1).mpr ascends

/-- The name of an order is taken where it is declared for the second time, but not the name of
the item inside. -/
example :
    let first : File := ⟨"a.proto", some "shop", ⟨none, true, none⟩, [⟨"Order", []⟩], [], []⟩
    let second : File :=
      ⟨"b.proto", some "shop", ⟨some "com", true, none⟩, [⟨"Order", [⟨"Item", []⟩]⟩], [], []⟩
    (ofFiles [first, second]).spaces.entries =
      [("shop.Order", "shop"), ("shop.Order.Item", "com.Order")] := by
  decide

end NamespaceTable

end ServiceBindings
