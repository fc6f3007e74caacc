import ServiceBindings.Proofs.Generation.Checks
import ServiceBindings.Proofs.Generation.Rendered
import ServiceBindings.Proofs.NamespaceTable

/-!
# The order of schema files

A generation does not depend on the order in which schema files are supplied: the same table
is built, the same files are selected, and so the same code is generated in the same order.
The order of the generated code is that of the selection.
-/

namespace ServiceBindings.Generation

open Schema (File)

theorem select_eq_of_perm {files shuffled : List File} (permuted : files.Perm shuffled)
    (distinct : (files.map (·.name)).Nodup) (name : String) :
    select files name = select shuffled name := by
  have shuffledDistinct : (shuffled.map (·.name)).Nodup :=
    (permuted.map _).nodup_iff.mp distinct
  cases selected : select shuffled name with
  | ok file =>
      rw [select_eq_ok_iff shuffledDistinct] at selected
      rw [select_eq_ok_iff distinct, permuted.mem_iff]
      exact selected
  | error error =>
      rw [select_eq_error_iff] at selected ⊢
      refine ⟨?_, selected.2⟩
      intro file member
      exact selected.1 file (permuted.mem_iff.mp member)

/-- A run on accepted files is determined by the table and by what is selected. -/
theorem run_of_areAccepted {files : List File} (accepted : AreAccepted files)
    (generators : List Generator) (selection : List String) :
    run generators files selection =
      (selection.mapM (select files)).map fun selected =>
        selected.flatMap (filesOf generators (NamespaceTable.ofFiles files)) := by
  rw [run_eq, acceptedSelection_of_areAccepted accepted]

/-- The order of well-formed schema files with distinct names is of no consequence, as long as
all declarations of a message agree on its namespace.  The table is the same, and so is the
result for any options and any selection: either the same files in the same order, or the
same unknown name. -/
theorem runOptions_eq_of_perm {files shuffled : List File} (permuted : files.Perm shuffled)
    (valid : ∀ file ∈ files, file.validate = .ok ())
    (distinct : (files.map (·.name)).Nodup)
    (agree : NamespaceTable.Agree (files.flatMap File.declarations))
    (options : Options) (selection : List String) :
    NamespaceTable.ofFiles files = NamespaceTable.ofFiles shuffled ∧
      runOptions options files selection = runOptions options shuffled selection ∧
      ((∃ code, runOptions options files selection = .ok code) ∨
        ∃ name ∈ selection, (∀ file ∈ files, file.name ≠ name) ∧
          runOptions options files selection = .error (.unknownFile name)) := by
  have accepted : AreAccepted files := ⟨valid, distinct⟩
  have sameTable : NamespaceTable.ofFiles files = NamespaceTable.ofFiles shuffled :=
    NamespaceTable.ofFiles_eq_of_perm permuted agree
  have sameSelect : select files = select shuffled := by
    funext name
    exact select_eq_of_perm permuted distinct name
  refine ⟨sameTable, ?_, ?_⟩
  · rw [runOptions, runOptions, run_of_areAccepted accepted,
      run_of_areAccepted (accepted.of_perm permuted), sameTable, sameSelect]
  · rw [runOptions, run_of_areAccepted accepted]
    rcases mapM_select_cases files selection with
      ⟨selected, computed⟩ | ⟨name, member, absent, computed⟩
    · exact .inl ⟨_, congrArg (Except.map _) computed⟩
    · exact .inr ⟨name, member, absent, congrArg (Except.map _) computed⟩

/-- A file that declares an order and the items nested in it. -/
def orderFile (name : String) (service : Schema.Service) : File where
  name := name
  package := some "shop"
  options := ⟨some "com.shop", true, none⟩
  messages := [⟨"Order", [⟨"Item", [⟨"Price", []⟩]⟩]⟩]
  enums := []
  services := [service]

theorem runOptions_eq_of_two_order_files :
    let ordering : Schema.Service := ⟨"Orders", [⟨"Place", ⟨"shop.Order"⟩, ⟨"shop.Order.Item"⟩,
      false, true⟩]⟩
    let pricing : Schema.Service := ⟨"Prices", [⟨"Ask", ⟨"shop.Order.Item"⟩,
      ⟨"shop.Order.Item.Price"⟩, true, false⟩]⟩
    let files := [orderFile "orders.proto" ordering, orderFile "prices.proto" pricing]
    NamespaceTable.ofFiles files = NamespaceTable.ofFiles files.reverse ∧
      runOptions Options.default files ["prices.proto", "orders.proto"] =
        runOptions Options.default files.reverse ["prices.proto", "orders.proto"] := by
  intro ordering pricing files
  have valid : ∀ file ∈ files, file.validate = .ok () := by
    simp only [files, List.forall_mem_cons]
    exact ⟨rfl, rfl, by simp⟩
  have distinct : (files.map (·.name)).Nodup := by decide
  have agree : NamespaceTable.Agree (files.flatMap File.declarations) := by
    rw [NamespaceTable.Agree]
    decide
  have same := runOptions_eq_of_perm (List.reverse_perm files).symm valid distinct agree
    Options.default ["prices.proto", "orders.proto"]
  exact ⟨same.1, same.2.1⟩

end ServiceBindings.Generation
