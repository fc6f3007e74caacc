import ServiceBindings.Proofs.Generation.Checks
import ServiceBindings.Proofs.Generation.Rendered
import ServiceBindings.Proofs.NamespaceTable.Declaration

/-!
# Schema files that are not referenced

The code of a file depends on the namespace table only where its methods refer to it.  A valid
file that is not selected, and that declares none of the messages that selected files refer to,
therefore makes no difference to a run, even if it changes what the table holds for others.
-/

namespace ServiceBindings

open Schema (File Message Service TypeName)

/-- The message types that the methods of a service refer to. -/
def Schema.Service.references (service : Service) : List TypeName :=
  service.methods.flatMap fun method => [method.inputType, method.outputType]

/-- The message types that the methods of a file refer to. -/
def Schema.File.references (file : File) : List TypeName :=
  file.services.flatMap Service.references

/-! ## What generated code reads from a table -/

/-- Whether two tables resolve types in the same way. -/
def NamespaceTable.AgreeOn (types : List TypeName) (left right : NamespaceTable) : Prop :=
  ∀ type ∈ types, left.resolve type = right.resolve type

namespace Java

variable {left right : NamespaceTable} {service : Service}
  (agree : NamespaceTable.AgreeOn service.references left right)

include agree

theorem declaration_congr {method : Schema.Method} (member : method ∈ service.methods)
    (shape : CallShape) (routed : Bool) :
    declaration left shape method routed = declaration right shape method routed := by
  have input := agree method.inputType (List.mem_flatMap.mpr ⟨method, member, by simp⟩)
  have output := agree method.outputType (List.mem_flatMap.mpr ⟨method, member, by simp⟩)
  simp only [declaration, input, output]

theorem writtenMethod_congr {method : Schema.Method} (member : method ∈ service.methods)
    (shape : CallShape) (bodyOf : Bool → List Statement) :
    writtenMethod left shape method bodyOf = writtenMethod right shape method bodyOf := by
  funext routed
  rw [writtenMethod, writtenMethod, declaration_congr agree member]

theorem contractLines_congr (space : String) (mode : CallMode) :
    contractLines left space service mode = contractLines right space service mode := by
  have same : declarations left mode service.methods = declarations right mode service.methods := by
    apply List.flatMap_congr
    intro method member
    simp only [declaration_congr agree member]
  rw [contractLines, contractLines, same]

theorem implementationLines_congr (space : String) (mode : CallMode) :
    implementationLines left space service mode = implementationLines right space service mode := by
  have same : writtenMethods left space service mode = writtenMethods right space service mode := by
    apply List.flatMap_congr
    intro method member
    have isMethod : method ∈ service.methods := (List.mem_filter.mp member).1
    simp only [writtenMethod_congr agree isMethod]
  rw [implementationLines, implementationLines, same]

end Java

theorem Generator.filesOf_congr {left right : NamespaceTable} {service : Service}
    (agree : NamespaceTable.AgreeOn service.references left right) (generator : Generator)
    (file : File) : generator.filesOf left file service = generator.filesOf right file service := by
  cases generator with
  | mk kind root =>
      cases kind with
      | contract =>
          simp only [filesOf, Java.contractFile, Java.contractLines_congr agree]
      | implementation =>
          simp only [filesOf, Java.implementationFile, Java.implementationLines_congr agree]
      | binding => rfl
      | registration => rfl

namespace Generation

/-- Tables that resolve the references of a file in the same way give the same code for it. -/
theorem filesOf_congr {left right : NamespaceTable} {file : File}
    (agree : NamespaceTable.AgreeOn file.references left right) (generators : List Generator) :
    filesOf generators left file = filesOf generators right file := by
  apply List.flatMap_congr
  intro generator _
  apply List.flatMap_congr
  intro service member
  apply Generator.filesOf_congr
  intro type referenced
  exact agree type (List.mem_flatMap.mpr ⟨service, member, referenced⟩)

/-! ## One more file -/

variable {front back : List File} {extra : File}

/-- The checks of files see of the earlier names only which of them are names of these files. -/
theorem checkFiles_congr {left right : List String} {files : List File}
    (same : ∀ file ∈ files, (file.name ∈ left ↔ file.name ∈ right)) :
    checkFiles left files = checkFiles right files := by
  induction files generalizing left right with
  | nil => rfl
  | cons file rest ih =>
      have sameFirst : left.contains file.name = right.contains file.name := by
        simpa using same file List.mem_cons_self
      have sameRest :
          checkFiles (file.name :: left) rest = checkFiles (file.name :: right) rest := by
        apply ih
        intro other member
        rw [List.mem_cons, List.mem_cons, same other (List.mem_cons_of_mem _ member)]
      rw [checkFiles, checkFiles, sameFirst, sameRest]

/-- A valid file with a name of its own passes the checks unnoticed. -/
theorem checkFiles_insert (valid : extra.validate = .ok ()) {earlier : List String}
    (notEarlier : extra.name ∉ earlier) (newName : ∀ file ∈ front ++ back, file.name ≠ extra.name) :
    checkFiles earlier (front ++ extra :: back) = checkFiles earlier (front ++ back) := by
  induction front generalizing earlier with
  | nil =>
      have unnoticed : checkFiles (extra.name :: earlier) back = checkFiles earlier back := by
        apply checkFiles_congr
        intro file member
        simp [newName file member]
      rw [List.nil_append, List.nil_append, checkFiles, valid]
      simpa [notEarlier] using unnoticed
  | cons file rest ih =>
      have differs : file.name ≠ extra.name := newName file List.mem_cons_self
      have unnoticed : checkFiles (file.name :: earlier) (rest ++ extra :: back) =
          checkFiles (file.name :: earlier) (rest ++ back) := by
        apply ih
        · simp [notEarlier, differs.symm]
        · intro other member
          exact newName other (List.mem_cons_of_mem _ member)
      rw [List.cons_append, List.cons_append, checkFiles, checkFiles, unnoticed]

theorem select_insert {name : String} (differs : extra.name ≠ name) :
    select (front ++ extra :: back) name = select (front ++ back) name := by
  have sameBack : (extra :: back).find? (·.name == name) = back.find? (·.name == name) :=
    List.find?_cons_of_neg (by simpa using differs)
  rw [select, select, List.find?_append, List.find?_append, sameBack]

theorem mem_of_select {files : List File} {name : String} {file : File}
    (selected : select files name = .ok file) : file ∈ files ∧ file.name = name := by
  rw [select] at selected
  split at selected
  · rename_i found
    cases selected
    exact ⟨List.mem_of_find?_eq_some found, by simpa using List.find?_some found⟩
  · cases selected

theorem acceptedSelection_insert (valid : extra.validate = .ok ())
    (newName : ∀ file ∈ front ++ back, file.name ≠ extra.name) {selection : List String}
    (notSelected : extra.name ∉ selection) :
    acceptedSelection (front ++ extra :: back) selection =
      acceptedSelection (front ++ back) selection := by
  have sameSelected : selection.mapM (select (front ++ extra :: back)) =
      selection.mapM (select (front ++ back)) := by
    apply mapM_congr
    intro name member
    apply select_insert
    rintro rfl
    exact notSelected member
  rw [acceptedSelection, acceptedSelection, checkFiles_insert valid List.not_mem_nil newName,
    sameSelected]

/-- A file changes nothing about the full names that it does not declare. -/
theorem spaceOf?_ofFiles_insert {fullName : String}
    (undeclared : ∀ path, Message.Leads extra.messages path → extra.nameAt path ≠ fullName) :
    (NamespaceTable.ofFiles (front ++ extra :: back)).spaceOf? fullName =
      (NamespaceTable.ofFiles (front ++ back)).spaceOf? fullName := by
  have absent : extra.declarations.find? (·.fullName == fullName) = none := by
    rw [List.find?_eq_none]
    intro declaration member
    rw [File.declarations_eq] at member
    obtain ⟨path, isPath, rfl⟩ := List.mem_map.mp member
    simpa using undeclared path ((Message.mem_pathsIn_iff path extra.messages).mp isPath)
  rw [NamespaceTable.ofFiles, NamespaceTable.ofFiles, NamespaceTable.spaceOf?_ofDeclarations,
    NamespaceTable.spaceOf?_ofDeclarations, List.flatMap_append, List.flatMap_append,
    List.flatMap_cons, List.find?_append, List.find?_append, List.find?_append, absent,
    Option.none_or]

/-- One more schema file makes no difference to a run, wherever it is put, if it is valid, has a
name of its own that is not selected, and declares no message that a selected file refers to.
The run generates the same code or fails with the same error. -/
theorem runOptions_insert_unreferenced (valid : extra.validate = .ok ())
    (newName : ∀ file ∈ front ++ back, file.name ≠ extra.name) {selection : List String}
    (notSelected : extra.name ∉ selection)
    (unreferenced : ∀ file ∈ front ++ back, file.name ∈ selection → ∀ type ∈ file.references,
      ∀ path, Message.Leads extra.messages path → extra.nameAt path ≠ type.fullName)
    (options : Options) :
    runOptions options (front ++ extra :: back) selection =
      runOptions options (front ++ back) selection := by
  rw [runOptions, runOptions, run_eq, run_eq, acceptedSelection_insert valid newName notSelected]
  cases accepted : acceptedSelection (front ++ back) selection with
  | error error => rw [Except.map, Except.map]
  | ok selected =>
      have sameCode : selected.flatMap (filesOf (Generator.ofOptions options)
            (NamespaceTable.ofFiles (front ++ extra :: back))) =
          selected.flatMap (filesOf (Generator.ofOptions options)
            (NamespaceTable.ofFiles (front ++ back))) := by
        apply List.flatMap_congr
        intro file member
        obtain ⟨name, isSelected, found⟩ :=
          exists_of_mem_mapM (acceptedSelection_eq_ok_iff.mp accepted).2 member
        obtain ⟨fileMember, rfl⟩ := mem_of_select found
        apply filesOf_congr
        intro type referenced
        rw [NamespaceTable.resolve, NamespaceTable.resolve,
          spaceOf?_ofFiles_insert (unreferenced file fileMember isSelected type referenced)]
      rw [Except.map, Except.map, sameCode]

/-- The file may change what the table says of a message that no selected file refers to. -/
theorem runOptions_insert_unreferenced_receipt :
    let orders : File := ⟨"shop/orders.proto", some "shop", .default,
      [⟨"Order", []⟩, ⟨"Receipt", []⟩], [],
      [⟨"Orders", [⟨"Place", ⟨"shop.Order"⟩, ⟨"shop.Order"⟩, false, false⟩]⟩]⟩
    let returns : File := ⟨"shop/returns.proto", some "shop", .default, [⟨"Receipt", []⟩], [], []⟩
    (NamespaceTable.ofFiles [returns, orders]).spaceOf? "shop.Receipt" ≠
        (NamespaceTable.ofFiles [orders]).spaceOf? "shop.Receipt" ∧
      runOptions .default [returns, orders] ["shop/orders.proto"] =
        runOptions .default [orders] ["shop/orders.proto"] := by
  intro orders returns
  have unreferenced : ∀ file ∈ [] ++ [orders], file.name ∈ ["shop/orders.proto"] →
      ∀ type ∈ file.references, ∀ path, Message.Leads returns.messages path →
        returns.nameAt path ≠ type.fullName := by
    intro file isFile _ type isReferenced path leads
    have isOrder : ∀ type ∈ orders.references, type.fullName = "shop.Order" := by decide
    have isReceipt : ∀ path ∈ Message.pathsIn returns.messages,
        returns.nameAt path = "shop.Receipt" := by decide
    rw [List.mem_singleton.mp isFile] at isReferenced
    rw [isOrder type isReferenced,
      isReceipt path ((Message.mem_pathsIn_iff path returns.messages).mpr leads)]
    decide
  have unchanged : runOptions .default ([] ++ returns :: [orders]) ["shop/orders.proto"] =
      runOptions .default ([] ++ [orders]) ["shop/orders.proto"] :=
    runOptions_insert_unreferenced (by rfl) (by decide) (by decide) unreferenced .default
  exact ⟨by decide, unchanged⟩

end Generation

end ServiceBindings
