import ServiceBindings.Proofs.Artifact.Directories
import ServiceBindings.Proofs.Text.Utf8

/-!
# Ancestors of artifacts

The directories of a tree are what its artifact paths start with up to some slash, no more and
no less.  They are listed in the order of their octets, where a directory comes after the one it
is in.
-/

namespace ServiceBindings.Artifact

/-- An artifact is below a directory if its path starts with the directory and a slash. -/
theorem mem_directoriesAbove_iff_prefix {directory path : String} :
    directory ∈ directoriesAbove path ↔ (directory ++ "/").toList <+: path.toList := by
  rw [mem_directoriesAbove_iff]
  constructor
  · intro given
    obtain ⟨⟨rest, isCut⟩, different⟩ := given
    have beyond : rest ≠ [] := by
      intro atEnd
      rw [atEnd, List.append_nil] at isCut
      exact different (Text.segments_inj isCut)
    have joined : path = directory ++ "/" ++ String.intercalate "/" rest := by
      calc path = String.intercalate "/" (Text.segments '/' directory ++ rest) := by
            rw [isCut]
            exact (Text.intercalate_segments '/' path).symm
        _ = String.intercalate "/" (Text.segments '/' directory) ++ "/" ++
              String.intercalate "/" rest :=
            String.intercalate_append_of_ne_nil (Text.segments_ne_nil '/' directory) beyond
        _ = directory ++ "/" ++ String.intercalate "/" rest := by
            rw [show String.intercalate "/" (Text.segments '/' directory) = directory from
              Text.intercalate_segments '/' directory]
    exact ⟨(String.intercalate "/" rest).toList, by rw [joined, ← String.toList_append]⟩
  · intro given
    obtain ⟨rest, isList⟩ := given
    have joined : path = directory ++ String.singleton '/' ++ String.ofList rest := by
      apply String.ext_iff.mpr
      rw [String.toList_append, String.toList_ofList]
      exact isList.symm
    have isCut : Text.segments '/' path =
        Text.segments '/' directory ++ Text.segments '/' (String.ofList rest) := by
      rw [joined, Text.segments_append_separator_append]
    refine ⟨isCut ▸ List.prefix_append _ _, ?_⟩
    intro same
    rw [same, List.self_eq_append_right] at isCut
    exact Text.segments_ne_nil '/' _ isCut

theorem mem_directoriesAbove_of_cutLast? {directory parent name : String}
    (isCut : Text.cutLast? '/' directory = some (parent, name)) :
    parent ∈ directoriesAbove directory := by
  rw [directoriesAbove_eq, isCut]
  exact List.mem_concat_self

theorem lt_of_mem_directoriesAbove {upper directory : String}
    (above : upper ∈ directoriesAbove directory) : upper < directory := by
  obtain ⟨rest, isList⟩ := mem_directoriesAbove_iff_prefix.mp above
  have joined : directory = upper ++ ("/" ++ String.ofList rest) := by
    apply String.ext_iff.mpr
    simp [← isList]
  rw [joined]
  exact Text.lt_append upper (by simp)

namespace Tree

theorem mem_directories_of_directoriesAbove {tree : Tree} {upper directory : String}
    (member : directory ∈ tree.directories) (above : upper ∈ directoriesAbove directory) :
    upper ∈ tree.directories := by
  rw [mem_directories_iff_directoriesAbove] at member ⊢
  obtain ⟨path, pathMember, inPath⟩ := member
  exact ⟨path, pathMember, mem_directoriesAbove_trans above inPath⟩

/-- The directories of a tree are all ancestors of its artifacts.  Each is listed once, in the
order of octets, and after its parent. -/
theorem directories_are_ancestors (tree : Tree) :
    (∀ directory, directory ∈ tree.directories ↔ Artifact.isPath directory = true ∧
      ∃ path ∈ tree.paths, (directory ++ "/").toList <+: path.toList) ∧
    tree.directories.Nodup ∧
    tree.directories.Pairwise (fun earlier later =>
      Text.Utf8.encode earlier < Text.Utf8.encode later) ∧
    ∀ (before after : List String) (directory parent name : String),
      tree.directories = before ++ directory :: after →
      Text.cutLast? '/' directory = some (parent, name) → parent ∈ before := by
  have ascending : tree.directories.Pairwise (· < ·) := Dictionary.pairwise_keys _
  refine ⟨?_, ?_, ?_, ?_⟩
  · intro directory
    simp only [← mem_directoriesAbove_iff_prefix]
    rw [← mem_directories_iff_directoriesAbove]
    exact ⟨fun member => ⟨isPath_of_mem_directories member, member⟩, And.right⟩
  · exact Dictionary.nodup_keys _
  · exact ascending.imp (Text.Utf8.encode_lt_encode_iff _ _).mpr
  · intro before after directory parent name isList isCut
    have above := mem_directoriesAbove_of_cutLast? isCut
    have member : directory ∈ tree.directories := by simp [isList]
    have parentMember := mem_directories_of_directoriesAbove member above
    rw [isList] at ascending parentMember
    have ⟨_, fromDirectory, _⟩ := List.pairwise_append.mp ascending
    have less := lt_of_mem_directoriesAbove above
    cases List.mem_append.mp parentMember with
    | inl inBefore => exact inBefore
    | inr fromHere =>
        -- from the directory on there are only later texts, and the parent is an earlier one
        cases List.mem_cons.mp fromHere with
        | inl same => exact absurd same (ne_of_mem_directoriesAbove above)
        | inr inAfter =>
            have greater := List.rel_of_pairwise_cons fromDirectory inAfter
            exact absurd (String.lt_trans less greater) (String.lt_irrefl parent)

end Tree

end ServiceBindings.Artifact
