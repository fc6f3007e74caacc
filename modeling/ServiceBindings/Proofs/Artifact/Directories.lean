import ServiceBindings.Proofs.Artifact.Place

/-!
# Directories of a tree

The directories of a tree are exactly what its paths lead through: the paths of fewer segments
with which a path of the tree starts.  They are collected upwards from each artifact, and a
known directory ends the climb; nothing is missed, because the known directories are closed
upwards whenever a climb begins.
-/

namespace ServiceBindings.Artifact

theorem properPrefixes_cons_cons {α : Type} (first second : α) (others : List α) :
    properPrefixes (first :: second :: others) =
      [first] :: (properPrefixes (second :: others)).map (first :: ·) := rfl

theorem mem_properPrefixes_iff {α : Type} {front items : List α} :
    front ∈ properPrefixes items ↔ front ≠ [] ∧ front <+: items ∧ front ≠ items := by
  induction items generalizing front with
  | nil =>
      rw [properPrefixes, List.prefix_nil]
      constructor
      · intro member
        cases member
      · intro given
        exact absurd given.2.1 given.1
  | cons first rest ih =>
      cases rest with
      | nil =>
          rw [properPrefixes]
          constructor
          · intro member
            cases member
          · intro given
            rcases given with ⟨nonempty, isPrefix, proper⟩
            rcases List.prefix_cons_iff.mp isPrefix with isEmpty | ⟨others, rfl, inRest⟩
            · exact absurd isEmpty nonempty
            · rw [List.prefix_nil] at inRest
              exact absurd (by rw [inRest]) proper
      | cons second others =>
          rw [properPrefixes_cons_cons, List.mem_cons, List.mem_map]
          constructor
          · intro member
            rcases member with rfl | ⟨inner, innerMember, rfl⟩
            · simp
            · rcases ih.mp innerMember with ⟨_, isPrefix, proper⟩
              exact ⟨List.cons_ne_nil _ _, List.cons_prefix_cons.mpr ⟨rfl, isPrefix⟩,
                fun same => proper (List.cons.inj same).2⟩
          · intro given
            rcases given with ⟨nonempty, isPrefix, proper⟩
            rcases List.prefix_cons_iff.mp isPrefix with isEmpty | ⟨inner, rfl, inRest⟩
            · exact absurd isEmpty nonempty
            · by_cases atEnd : inner = []
              · exact .inl (by rw [atEnd])
              · exact .inr ⟨inner, ih.mpr ⟨atEnd, inRest, fun same => proper (by rw [same])⟩, rfl⟩

theorem properPrefixes_concat {α : Type} {front : List α} (nonempty : front ≠ []) (last : α) :
    properPrefixes (front ++ [last]) = properPrefixes front ++ [front] := by
  induction front with
  | nil => exact absurd rfl nonempty
  | cons first rest ih =>
      cases rest with
      | nil => rfl
      | cons second others =>
          have inRest := ih (List.cons_ne_nil second others)
          rw [List.cons_append, List.cons_append, properPrefixes_cons_cons, ← List.cons_append,
            inRest, properPrefixes_cons_cons, List.map_append, List.map_singleton,
            List.cons_append]

/-- The last directory above an artifact is what stands before the last slash of its path. -/
theorem directoriesAbove_eq (path : String) :
    directoriesAbove path =
      match Text.cutLast? '/' path with
      | none => []
      | some (parent, _) => directoriesAbove parent ++ [parent] := by
  rcases exists_segments_eq path with ⟨front, last, isCut⟩
  rw [directoriesAbove, isCut, Text.cutLast?_of_segments isCut]
  by_cases single : front = []
  · rw [if_pos single, single]
    rfl
  · have frontAbsent : ∀ part ∈ front, '/' ∉ part.toList := by
      intro part member
      exact Text.separator_notMem_of_mem_segments (isCut ▸ List.mem_append_left [last] member)
    have areSegments := Text.segments_intercalate single frontAbsent
    rw [if_neg single, properPrefixes_concat single, List.map_append, List.map_singleton]
    simp only [directoriesAbove]
    rw [areSegments]
    rfl

theorem mem_directoriesAbove_iff {directory path : String} :
    directory ∈ directoriesAbove path ↔
      Text.segments '/' directory <+: Text.segments '/' path ∧ directory ≠ path := by
  rw [directoriesAbove, List.mem_map]
  constructor
  · intro given
    rcases given with ⟨front, member, rfl⟩
    rcases mem_properPrefixes_iff.mp member with ⟨nonempty, isPrefix, proper⟩
    have areSegments : Text.segments '/' (String.intercalate "/" front) = front :=
      Text.segments_intercalate nonempty fun _ inFront =>
        Text.separator_notMem_of_mem_segments (isPrefix.subset inFront)
    refine ⟨areSegments.symm ▸ isPrefix, ?_⟩
    intro same
    exact proper (by rw [← same, areSegments])
  · intro given
    refine ⟨Text.segments '/' directory, mem_properPrefixes_iff.mpr
      ⟨Text.segments_ne_nil _ _, given.1, ?_⟩, Text.intercalate_segments '/' directory⟩
    intro same
    exact given.2 (Text.segments_inj same)

theorem ne_of_mem_directoriesAbove {directory path : String}
    (member : directory ∈ directoriesAbove path) : directory ≠ path :=
  (mem_directoriesAbove_iff.mp member).2

theorem mem_directoriesAbove_trans {upper directory path : String}
    (above : upper ∈ directoriesAbove directory) (member : directory ∈ directoriesAbove path) :
    upper ∈ directoriesAbove path := by
  have ⟨upperPrefix, upperDiffers⟩ := mem_directoriesAbove_iff.mp above
  have ⟨isPrefix, _⟩ := mem_directoriesAbove_iff.mp member
  refine mem_directoriesAbove_iff.mpr ⟨upperPrefix.trans isPrefix, ?_⟩
  intro same
  subst same
  exact upperDiffers (Text.segments_inj (upperPrefix.eq_of_length_le isPrefix.length_le))

namespace Tree

/-! ## Collecting directories -/

/-- Whether everything above a known directory is known. -/
def IsClosedUpwards (known : Dictionary Unit) : Prop :=
  ∀ directory ∈ known.keys, directoriesAbove directory ⊆ known.keys

/-- A climb adds all directories above an artifact, even if it ends at a known one. -/
theorem mem_keys_addUpwards {path : String} {known : Dictionary Unit}
    (closed : ∀ directory ∈ directoriesAbove path, directory ∈ known.keys →
      directoriesAbove directory ⊆ known.keys) (directory : String) :
    directory ∈ (addUpwards known (directoriesAbove path).reverse).keys ↔
      directory ∈ known.keys ∨ directory ∈ directoriesAbove path := by
  generalize isClimb : (directoriesAbove path).reverse = climb
  induction climb generalizing path known with
  | nil => simp [addUpwards, List.reverse_eq_nil_iff.mp isClimb]
  | cons parent above ih =>
      rw [directoriesAbove_eq path] at isClimb closed ⊢
      cases isCut : Text.cutLast? '/' path with
      | none => simp [isCut] at isClimb
      | some cut =>
          simp only [isCut, List.reverse_append, List.reverse_singleton, List.singleton_append,
            List.cons.injEq, List.mem_append, List.mem_singleton] at isClimb closed ⊢
          rcases isClimb with ⟨rfl, isAbove⟩
          rw [addUpwards]
          split
          · -- everything above a known directory is known
            rename_i isKnown
            have parentKnown : cut.1 ∈ known.keys := Dictionary.mem_keys_iff.mpr isKnown
            have aboveKnown := closed cut.1 (.inr rfl) parentKnown
            constructor
            · exact .inl
            · intro given
              rcases given with old | inAbove | rfl
              · exact old
              · exact aboveKnown inAbove
              · exact parentKnown
          · have stillClosed : ∀ upper ∈ directoriesAbove cut.1,
                upper ∈ (known.insert cut.1 ()).keys →
                  directoriesAbove upper ⊆ (known.insert cut.1 ()).keys := by
              intro upper inAbove present other inUpper
              rw [Dictionary.mem_keys_insert_iff] at present ⊢
              have old := present.resolve_left (ne_of_mem_directoriesAbove inAbove)
              exact .inr (closed upper (.inl inAbove) old inUpper)
            rw [ih stillClosed isAbove, Dictionary.mem_keys_insert_iff, or_assoc, or_left_comm,
              or_comm (b := directory ∈ directoriesAbove cut.1)]

theorem isClosedUpwards_addUpwards {known : Dictionary Unit} (closed : IsClosedUpwards known)
    (path : String) : IsClosedUpwards (addUpwards known (directoriesAbove path).reverse) := by
  intro directory member upper inUpper
  have added := @mem_keys_addUpwards path known fun other _ => closed other
  rw [added] at member ⊢
  cases member with
  | inl old => exact .inl (closed directory old inUpper)
  | inr inPath => exact .inr (mem_directoriesAbove_trans inUpper inPath)

theorem mem_keys_foldl_addUpwards {known : Dictionary Unit} (closed : IsClosedUpwards known)
    (paths : List String) (directory : String) :
    directory ∈ (paths.foldl (fun known path =>
        addUpwards known (directoriesAbove path).reverse) known).keys ↔
      directory ∈ known.keys ∨ ∃ path ∈ paths, directory ∈ directoriesAbove path := by
  induction paths generalizing known with
  | nil => simp
  | cons path rest ih =>
      rw [List.foldl_cons, ih (isClosedUpwards_addUpwards closed path),
        mem_keys_addUpwards fun other _ => closed other, or_assoc, List.exists_mem_cons_iff]

variable {tree : Tree} {directory : String}

/-- The directories of a tree are those above its artifacts. -/
theorem mem_directories_iff_directoriesAbove :
    directory ∈ tree.directories ↔ ∃ path ∈ tree.paths, directory ∈ directoriesAbove path := by
  have closed : IsClosedUpwards .empty := fun _ member => absurd member List.not_mem_nil
  have noKeys : directory ∉ (Dictionary.empty : Dictionary Unit).keys := List.not_mem_nil
  rw [directories, mem_keys_foldl_addUpwards closed, or_iff_right noKeys]

/-- A directory of a tree is what a path of the tree starts with, unless it is that path. -/
theorem mem_directories_iff :
    directory ∈ tree.directories ↔
      ∃ path ∈ tree.paths,
        Text.segments '/' directory <+: Text.segments '/' path ∧ directory ≠ path := by
  simp only [mem_directories_iff_directoriesAbove, mem_directoriesAbove_iff]

theorem isPath_of_mem_paths {path : String} (member : path ∈ tree.paths) :
    Artifact.isPath path = true := by
  rcases List.mem_map.mp member with ⟨entry, entryMember, rfl⟩
  exact tree.isPath entry entryMember

theorem isPath_of_segments_prefix {front path : String} (valid : Artifact.isPath path = true)
    (isPrefix : Text.segments '/' front <+: Text.segments '/' path) :
    Artifact.isPath front = true := by
  rw [Artifact.isPath, List.all_eq_true] at valid ⊢
  intro component member
  exact valid component (isPrefix.subset member)

theorem isPath_of_mem_directories (member : directory ∈ tree.directories) :
    Artifact.isPath directory = true := by
  rcases mem_directories_iff.mp member with ⟨path, pathMember, isPrefix, _⟩
  exact isPath_of_segments_prefix (isPath_of_mem_paths pathMember) isPrefix

/-- What a directory of a tree starts with is a directory of the tree. -/
theorem mem_directories_of_prefix {front : String} (member : directory ∈ tree.directories)
    (isPrefix : Text.segments '/' front <+: Text.segments '/' directory) :
    front ∈ tree.directories := by
  rcases mem_directories_iff.mp member with ⟨path, pathMember, directoryPrefix, different⟩
  refine mem_directories_iff.mpr ⟨path, pathMember, isPrefix.trans directoryPrefix, ?_⟩
  intro same
  rw [same] at isPrefix
  exact different (Text.segments_inj (directoryPrefix.eq_of_length_le isPrefix.length_le))

end Tree

end ServiceBindings.Artifact
