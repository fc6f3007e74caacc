import ServiceBindings.Generation
import Mathlib.Data.List.Nodup
import ServiceBindings.Proofs.Traversal

/-!
# Acceptance and selection of schema files

The checks of a run accept files that are each well-formed and have distinct names.  Among
such files a name selects at most one, wherever it stands.
-/

namespace ServiceBindings.Generation

open Schema (File)

/-- What the checks of a run demand of its files. -/
structure AreAccepted (files : List File) : Prop where
  valid : ∀ file ∈ files, file.validate = .ok ()
  distinct : (files.map (·.name)).Nodup

theorem areAccepted_nil : AreAccepted [] := ⟨by simp, by simp⟩

theorem areAccepted_cons (file : File) (rest : List File) :
    AreAccepted (file :: rest) ↔
      file.validate = .ok () ∧ (∀ other ∈ rest, other.name ≠ file.name) ∧ AreAccepted rest := by
  constructor
  · intro given
    rcases given with ⟨valid, distinct⟩
    rw [List.map_cons, List.nodup_cons] at distinct
    refine ⟨valid file (by simp), ?_, fun other member => valid other (by simp [member]),
      distinct.2⟩
    intro other member sameName
    exact distinct.1 (List.mem_map.mpr ⟨other, member, sameName⟩)
  · intro given
    rcases given with ⟨fileValid, newName, valid, distinct⟩
    constructor
    · simpa [fileValid] using valid
    · rw [List.map_cons, List.nodup_cons]
      refine ⟨?_, distinct⟩
      intro member
      rcases List.mem_map.mp member with ⟨other, otherMember, sameName⟩
      exact newName other otherMember sameName

theorem checkFiles_eq_ok_iff (earlier : List String) (files : List File) :
    checkFiles earlier files = .ok () ↔
      AreAccepted files ∧ ∀ file ∈ files, file.name ∉ earlier := by
  induction files generalizing earlier with
  | nil => simp [checkFiles, areAccepted_nil]
  | cons file rest ih =>
      rw [checkFiles, areAccepted_cons]
      cases file.validate with
      | error error => simp
      | ok _ =>
          by_cases isEarlier : file.name ∈ earlier
          · simp [isEarlier]
          · simp only [List.contains_eq_mem, isEarlier, decide_false, Bool.false_eq_true, if_false,
              ih, true_and]
            constructor
            · intro given
              rcases given with ⟨accepted, new⟩
              refine ⟨⟨?_, accepted⟩, ?_⟩
              · intro other member sameName
                exact new other member (by simp [sameName])
              · intro other member
                rcases List.mem_cons.mp member with rfl | inRest
                · exact isEarlier
                · exact fun otherEarlier => new other inRest (by simp [otherEarlier])
            · intro given
              rcases given with ⟨⟨newName, accepted⟩, new⟩
              refine ⟨accepted, ?_⟩
              intro other member
              rw [List.mem_cons, not_or]
              exact ⟨newName other member, new other (by simp [member])⟩

theorem checkFiles_of_areAccepted {files : List File} (accepted : AreAccepted files) :
    checkFiles [] files = .ok () :=
  (checkFiles_eq_ok_iff [] files).mpr ⟨accepted, by simp⟩

theorem select_eq_ok_iff {files : List File} (distinct : (files.map (·.name)).Nodup)
    (name : String) (file : File) :
    select files name = .ok file ↔ file ∈ files ∧ file.name = name := by
  rw [select]
  cases found : files.find? (·.name == name) with
  | none =>
      have absent := List.find?_eq_none.mp found
      constructor
      · intro selected
        cases selected
      · intro given
        rcases given with ⟨member, isName⟩
        exact absurd (beq_iff_eq.mpr isName) (absent file member)
  | some first =>
      have member : first ∈ files := List.mem_of_find?_eq_some found
      have isName : first.name = name := by simpa using List.find?_some found
      constructor
      · intro selected
        cases selected
        exact ⟨member, isName⟩
      · intro given
        rcases given with ⟨otherMember, otherIsName⟩
        have same : first = file :=
          List.inj_on_of_nodup_map distinct member otherMember (isName.trans otherIsName.symm)
        rw [same]

theorem select_eq_error_iff (files : List File) (name : String) (error : GenerationError) :
    select files name = .error error ↔
      (∀ file ∈ files, file.name ≠ name) ∧ error = .unknownFile name := by
  rw [select]
  cases found : files.find? (·.name == name) with
  | none =>
      have absent : ∀ file ∈ files, file.name ≠ name := by simpa using found
      constructor
      · intro selected
        cases selected
        exact ⟨absent, rfl⟩
      · intro given
        rcases given with ⟨_, rfl⟩
        rfl
  | some first =>
      have member : first ∈ files := List.mem_of_find?_eq_some found
      have isName : first.name = name := by simpa using List.find?_some found
      constructor
      · intro selected
        cases selected
      · intro given
        rcases given with ⟨absent, _⟩
        exact absurd isName (absent first member)

theorem select_ok_of_mem {files : List File} {name : String}
    (member : name ∈ files.map (·.name)) : ∃ file, select files name = .ok file := by
  cases selected : select files name with
  | ok file => exact ⟨file, rfl⟩
  | error error =>
      rcases List.mem_map.mp member with ⟨file, fileMember, isName⟩
      have absent := ((select_eq_error_iff files name error).mp selected).1
      exact absurd isName (absent file fileMember)

theorem select_of_notMem {files : List File} {name : String}
    (absent : name ∉ files.map (·.name)) : select files name = .error (.unknownFile name) := by
  rw [select_eq_error_iff]
  refine ⟨?_, rfl⟩
  intro file member isName
  exact absent (List.mem_map.mpr ⟨file, member, isName⟩)

/-- Names select files, unless one of them is no name of a file. -/
theorem mapM_select_cases (files : List File) (selection : List String) :
    (∃ selected, selection.mapM (select files) = .ok selected) ∨
      ∃ name ∈ selection, (∀ file ∈ files, file.name ≠ name) ∧
        selection.mapM (select files) = .error (.unknownFile name) := by
  cases isSelected : selection.mapM (select files) with
  | ok selected => exact .inl ⟨selected, rfl⟩
  | error error =>
      rcases exists_of_mapM_eq_error isSelected with ⟨name, member, nameFails⟩
      rcases (select_eq_error_iff files name error).mp nameFails with ⟨absent, rfl⟩
      exact .inr ⟨name, member, absent, rfl⟩

/-- The files that a run generates code for.  All files are checked before any is selected. -/
def acceptedSelection (files : List File) (selection : List String) :
    Except GenerationError (List File) := do
  checkFiles [] files
  selection.mapM (select files)

theorem acceptedSelection_eq_ok_iff {files selected : List File} {selection : List String} :
    acceptedSelection files selection = .ok selected ↔
      checkFiles [] files = .ok () ∧ selection.mapM (select files) = .ok selected := by
  rw [acceptedSelection, bind_eq_ok_iff]
  constructor
  · intro given
    rcases given with ⟨_, accepted, isSelected⟩
    exact ⟨accepted, isSelected⟩
  · intro given
    exact ⟨(), given⟩

theorem acceptedSelection_of_areAccepted {files : List File} (accepted : AreAccepted files)
    (selection : List String) :
    acceptedSelection files selection = selection.mapM (select files) := by
  rw [acceptedSelection, checkFiles_of_areAccepted accepted]
  rfl

theorem acceptedSelection_append (files : List File) (front back : List String) :
    acceptedSelection files (front ++ back) = (do
      let frontFiles ← acceptedSelection files front
      let backFiles ← acceptedSelection files back
      pure (frontFiles ++ backFiles)) := by
  simp only [acceptedSelection, List.mapM_append]
  cases checkFiles [] files with
  | error error => rfl
  | ok accepted => rfl

/-- The files with the given names, in the order of the names. -/
def selectedFiles (files : List File) (selection : List String) : List File :=
  selection.filterMap fun name => files.find? (·.name == name)

theorem eq_selectedFiles_of_mapM {files selected : List File} {selection : List String}
    (isSelected : selection.mapM (select files) = .ok selected) :
    selected = selectedFiles files selection := by
  induction selection generalizing selected with
  | nil =>
      cases isSelected
      rfl
  | cons name rest ih =>
      rcases mapM_cons_eq_ok_iff.mp isSelected with
        ⟨file, others, fileSelected, othersSelected, rfl⟩
      rw [select] at fileSelected
      split at fileSelected
      · rename_i found
        cases fileSelected
        rw [selectedFiles, List.filterMap_cons, found, ih othersSelected]
        rfl
      · cases fileSelected

theorem mem_of_mem_selectedFiles {files : List File} {selection : List String} {file : File}
    (member : file ∈ selectedFiles files selection) : file ∈ files := by
  rcases List.mem_filterMap.mp member with ⟨name, _, found⟩
  exact List.mem_of_find?_eq_some found

theorem AreAccepted.of_perm {files shuffled : List File} (permuted : files.Perm shuffled)
    (accepted : AreAccepted files) : AreAccepted shuffled := by
  constructor
  · intro file member
    exact accepted.valid file (permuted.mem_iff.mpr member)
  · exact (permuted.map _).nodup_iff.mp accepted.distinct

end ServiceBindings.Generation
