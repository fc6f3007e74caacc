import ServiceBindings.Proofs.Artifact.Containment
import ServiceBindings.Proofs.Disk.Clearance

/-!
# Exports into fresh directories

Nothing stands in the way of an export to a base that is missing or empty, if the paths of the
tree leave room for each other.  Afterwards the tree is what is below the base: its artifacts are
the files and its directories the directories.
-/

namespace ServiceBindings.Artifact

open Disk (Deepens Grows Location Performs isAbsolute joinPath steps)

/-- Whether the paths of a tree can all be taken at once: none is a directory on the way to
another one, even as a temporary path, and all names are short enough, with four octets to spare
for those of files. -/
structure Tree.IsSpacious (tree : Tree) : Prop where
  notDirectory : ∀ path ∈ tree.paths, path ∉ tree.directories
  temporaryNotDirectory : ∀ path ∈ tree.paths, temporaryPath path ∉ tree.directories
  noNull : ∀ path ∈ tree.paths, '\x00' ∉ path.toList
  fit : ∀ path ∈ tree.paths, ∀ component ∈ Text.segments '/' path, component.utf8ByteSize ≤ 255
  fileNameFits : ∀ path ∈ tree.paths, ∀ fileName,
    (Text.segments '/' path).getLast? = some fileName → fileName.utf8ByteSize ≤ 251

/-- Whether a path from the root leads through directories, as far as they exist, to a directory
with nothing in it or to none. -/
structure IsFreshBase (disk : Disk) (base : String) : Prop where
  absolute : isAbsolute base = true
  noDots : ∀ name ∈ steps base, Disk.isDots name = false
  fit : ∀ name ∈ steps base, name.utf8ByteSize ≤ 255
  noNull : '\x00' ∉ base.toList
  noFile : ∀ front, front <+: steps base → ∀ octets, disk.find? front ≠ some (.file octets)
  nothingBelow : ∀ rest, rest ≠ [] → disk.find? (steps base ++ rest) = none

variable {tree : Tree} {base : String} {disk before after : Disk}

theorem fits_of_le {name : String} (short : name.utf8ByteSize ≤ 255) : Disk.fits name = true := by
  rw [Disk.fits, Disk.nameLimit, decide_eq_true_eq]
  exact short

namespace Tree.IsSpacious

variable {directory path : String} (spacious : tree.IsSpacious)

include spacious

theorem fits_directory (member : directory ∈ tree.directories) {component : String}
    (inDirectory : component ∈ Text.segments '/' directory) : Disk.fits component = true := by
  rcases Tree.mem_directories_iff.mp member with ⟨path, pathMember, isPrefix, _⟩
  exact fits_of_le (spacious.fit path pathMember component (isPrefix.subset inDirectory))

theorem noNull_component (member : path ∈ tree.paths) {component : String}
    (inPath : component ∈ Text.segments '/' path) : '\x00' ∉ component.toList :=
  fun inside => spacious.noNull path member (Text.mem_of_mem_segments inPath inside)

theorem noNull_directory (member : directory ∈ tree.directories) :
    '\x00' ∉ directory.toList := by
  rcases Tree.mem_directories_iff.mp member with ⟨path, pathMember, isPrefix, _⟩
  rw [← Text.intercalate_segments '/' directory]
  apply Text.notMem_intercalate (by decide)
  intro component inDirectory
  exact spacious.noNull_component pathMember (isPrefix.subset inDirectory)

theorem fits_temporary (member : path ∈ tree.paths) {component : String}
    (inTemporary : component ∈ Text.segments '/' (temporaryPath path)) :
    Disk.fits component = true := by
  rcases exists_segments_eq path with ⟨front, last, isCut⟩
  rw [segments_temporaryPath isCut, List.mem_append, List.mem_singleton] at inTemporary
  rcases inTemporary with inFront | rfl
  · exact fits_of_le (spacious.fit path member component (isCut ▸ List.mem_append_left _ inFront))
  · have short := spacious.fileNameFits path member last (by rw [isCut, List.getLast?_concat])
    apply fits_of_le
    rw [String.utf8ByteSize_append, show ".tmp".utf8ByteSize = 4 by decide]
    omega

end Tree.IsSpacious

/-! ## The base -/

namespace IsFreshBase

variable (fresh : IsFreshBase before base)

include fresh

theorem start (disk : Disk) : disk.start (isAbsolute base) = [] := by
  rw [Disk.start, if_pos fresh.absolute]

theorem hasStart (disk : Disk) : disk.HasStart (isAbsolute base) := by
  rw [fresh.absolute]
  exact Disk.hasStart_true disk

/-- Leading names of the base lead to where they say. -/
theorem eq_of_follow {front : List String} {location : Location} (isFront : front <+: steps base)
    (leads : disk.follow (disk.start (isAbsolute base)) front = .ok location) :
    location = front := by
  have noDots : ∀ name ∈ front, Disk.isDots name = false :=
    fun name member => fresh.noDots name (isFront.subset member)
  rw [fresh.start, Disk.follow_eq_ok_iff noDots (Disk.find?_nil disk)] at leads
  exact leads.1

theorem eq_root {root : Location} (isBase : IsBase disk base root) : root = steps base :=
  fresh.eq_of_follow List.prefix_rfl isBase.leads

theorem isClear : before.IsClear (isAbsolute base) (steps base) where
  noDots := fresh.noDots
  fit name member := fits_of_le (fresh.fit name member)
  noNull name member inside := by
    have inSegments := (List.mem_filter.mp member).1
    exact fresh.noNull (Text.mem_of_mem_segments inSegments inside)
  noFile front isFront octets := by
    rw [fresh.start]
    exact fresh.noFile front isFront octets

/-- The base can be created, and leads then to a directory with nothing below it. -/
theorem exists_created (unlimited : before.pathLimit? = none) :
    ∃ based, before.createDirectories base = (based, none) ∧
      IsBase based base (steps base) ∧
        ∀ rest, rest ≠ [] → based.find? (steps base ++ rest) = none := by
  have succeeds :=
    Disk.createDirectories_of_isClear (fresh.hasStart before) unlimited fresh.noNull fresh.isClear
  have deepens := Disk.deepens_createDirectories (fresh.hasStart before)
  rcases created : before.createDirectories base with ⟨based, fault?⟩
  rw [created] at succeeds deepens
  cases succeeds
  rcases IsBase.of_createDirectories (fresh.hasStart before) created with ⟨root, isBase⟩
  rw [fresh.eq_root isBase] at isBase
  refine ⟨based, rfl, isBase, ?_⟩
  intro rest nonempty
  by_contra present
  have differs : based.find? (steps base ++ rest) ≠ before.find? (steps base ++ rest) := by
    rw [fresh.nothingBelow rest nonempty]
    exact present
  rcases deepens.made _ differs with ⟨_, _, front, isFront, leadsBelow⟩
  have lengths := isFront.length_le
  rw [← fresh.eq_of_follow isFront leadsBelow, List.length_append] at lengths
  exact nonempty (List.eq_nil_of_length_eq_zero (by omega))

end IsFreshBase

/-! ## The directories -/

/-- Whether what is below a base is directories of a tree only, and among them given ones. -/
structure IsFurnished (tree : Tree) (base : String) (created : List String) (disk : Disk) :
    Prop where
  unlimited : disk.pathLimit? = none
  isBase : IsBase disk base (steps base)
  present : ∀ directory ∈ created, disk.find? (place (steps base) directory) = some .directory
  nothingElse : ∀ rest entry, rest ≠ [] → disk.find? (steps base ++ rest) = some entry →
    entry = .directory ∧ ∃ directory ∈ tree.directories, rest = Text.segments '/' directory

namespace IsFurnished

variable {created : List String} {directory : String}

theorem isClear (furnished : IsFurnished tree base created disk) (fresh : IsFreshBase before base)
    (spacious : tree.IsSpacious) (member : directory ∈ tree.directories) :
    disk.IsClear (isAbsolute (joinPath base directory)) (steps (joinPath base directory)) := by
  have valid := Tree.isPath_of_mem_directories member
  have baseClear := fresh.isClear
  rw [isAbsolute_joinPath base valid, steps_joinPath base valid]
  constructor
  · intro name inNames
    rcases List.mem_append.mp inNames with inBase | inDirectory
    · exact fresh.noDots name inBase
    · exact isDots_of_mem_segments valid inDirectory
  · intro name inNames
    rcases List.mem_append.mp inNames with inBase | inDirectory
    · exact baseClear.fit name inBase
    · exact spacious.fits_directory member inDirectory
  · intro name inNames
    rcases List.mem_append.mp inNames with inBase | inDirectory
    · exact baseClear.noNull name inBase
    · intro inside
      exact spacious.noNull_directory member (Text.mem_of_mem_segments inDirectory inside)
  · intro front isFront octets isFile
    rw [fresh.start, List.nil_append] at isFile
    rcases List.prefix_or_prefix_of_prefix isFront (List.prefix_append _ _) with within | beyond
    · rw [Disk.find?_of_isPrefix furnished.isBase.isDirectory within] at isFile
      cases isFile
    · rcases beyond with ⟨rest, rfl⟩
      by_cases atBase : rest = []
      · rw [atBase, List.append_nil, furnished.isBase.isDirectory] at isFile
        cases isFile
      · cases (furnished.nothingElse rest _ atBase isFile).1

/-- One more directory of the tree can be created. -/
theorem exists_created (furnished : IsFurnished tree base created disk)
    (fresh : IsFreshBase before base) (spacious : tree.IsSpacious)
    (member : directory ∈ tree.directories) :
    ∃ after, disk.createDirectories (joinPath base directory) = (after, none) ∧
      IsFurnished tree base (directory :: created) after := by
  have valid := Tree.isPath_of_mem_directories member
  have noNull : '\x00' ∉ (joinPath base directory).toList :=
    notMem_joinPath (by decide) fresh.noNull (spacious.noNull_directory member)
  have hasStart := furnished.isBase.hasStart_joinPath valid
  have succeeds := Disk.createDirectories_of_isClear hasStart furnished.unlimited noNull
    (furnished.isClear fresh spacious member)
  have deepens := Disk.deepens_createDirectories hasStart
  have hasSteps : steps (joinPath base directory) ≠ [] := by
    rw [steps_joinPath base valid]
    exact List.append_ne_nil_of_right_ne_nil _ (Text.segments_ne_nil _ _)
  have isDirectory := Disk.isDirectory_of_createDirectories hasStart hasSteps succeeds
  rcases isCreated : disk.createDirectories (joinPath base directory) with ⟨after, fault?⟩
  rw [isCreated] at succeeds deepens isDirectory
  cases succeeds
  have isBase := furnished.isBase.of_grows deepens.grows
  refine ⟨after, rfl, ?_, isBase, ?_, ?_⟩
  · rw [deepens.grows.pathLimit]
    exact furnished.unlimited
  · intro other inCreated
    rcases List.mem_cons.mp inCreated with rfl | older
    · exact isBase.find?_place valid isDirectory
    · exact deepens.grows.directories _ (furnished.present other older)
  · intro rest entry nonempty stored
    by_cases unchanged : after.find? (steps base ++ rest) = disk.find? (steps base ++ rest)
    · exact furnished.nothingElse rest entry nonempty (unchanged ▸ stored)
    · rcases furnished.isBase.exists_place_of_deepens valid deepens unchanged with
        ⟨_, nowDirectory, front, isPrefix, isPlace⟩
      rw [stored] at nowDirectory
      cases nowDirectory
      exact ⟨rfl, front, Tree.mem_directories_of_prefix member isPrefix,
        List.append_cancel_left isPlace⟩

theorem exists_performs (fresh : IsFreshBase before base) (spacious : tree.IsSpacious)
    {directories : List String} (subset : directories ⊆ tree.directories)
    (furnished : IsFurnished tree base created disk) :
    ∃ after, Performs (directoryActions base directories) disk after ∧
      IsFurnished tree base (directories.reverse ++ created) after := by
  induction directories generalizing created disk with
  | nil => exact ⟨disk, Disk.performs_nil_iff.mpr rfl, furnished⟩
  | cons directory rest ih =>
      rcases furnished.exists_created fresh spacious (subset (List.mem_cons_self ..)) with
        ⟨middle, isCreated, middleFurnished⟩
      rcases ih (fun other member => subset (List.mem_cons_of_mem _ member)) middleFurnished with
        ⟨after, performed, afterFurnished⟩
      refine ⟨after, performs_directoryActions_cons_iff.mpr ⟨middle, isCreated, performed⟩, ?_⟩
      simpa using afterFurnished

end IsFurnished

/-! ## The files -/

theorem dropLast_place_temporaryPath (root : Location) (path : String) :
    (place root (temporaryPath path)).dropLast = (place root path).dropLast := by
  rcases exists_segments_eq path with ⟨front, last, isCut⟩
  rw [place, place, segments_temporaryPath isCut, isCut, ← List.append_assoc,
    ← List.append_assoc, List.dropLast_concat, List.dropLast_concat]

/-- The directory in which an artifact is placed is the root or a directory of the tree. -/
theorem Tree.dropLast_place_cases {path : String} (root : Location) (member : path ∈ tree.paths) :
    (place root path).dropLast = root ∨
      ∃ directory ∈ tree.directories, (place root path).dropLast = place root directory := by
  rcases exists_segments_eq path with ⟨front, last, isCut⟩
  rw [place, isCut, ← List.append_assoc, List.dropLast_concat]
  by_cases atTop : front = []
  · exact .inl (by rw [atTop, List.append_nil])
  · have areSegments : Text.segments '/' (String.intercalate "/" front) = front := by
      refine Text.segments_intercalate atTop fun component inFront => ?_
      exact Text.separator_notMem_of_mem_segments (isCut ▸ List.mem_append_left _ inFront)
    refine .inr ⟨String.intercalate "/" front, Tree.mem_directories_iff.mpr ⟨path, member, ?_, ?_⟩,
      by rw [place, areSegments]⟩
    · rw [areSegments, isCut]
      exact List.prefix_append _ _
    · intro same
      rw [same, isCut] at areSegments
      exact absurd areSegments (by simp)

namespace IsFurnished

variable {created : List String} {path : String}
  (furnished : IsFurnished tree base created disk)

include furnished

theorem free (notDirectory : path ∉ tree.directories) :
    disk.find? (place (steps base) path) ≠ some .directory := by
  intro stored
  rcases (furnished.nothingElse _ _ (Text.segments_ne_nil _ _) stored).2 with
    ⟨directory, member, same⟩
  exact notDirectory (Text.segments_inj same ▸ member)

variable (fresh : IsFreshBase before base)

include fresh

theorem accepts (valid : isPath path = true) (noNull : '\x00' ∉ path.toList) :
    disk.Accepts (joinPath base path) := by
  refine ⟨notMem_joinPath (by decide) fresh.noNull noNull, ?_,
    by simp [Disk.admits, furnished.unlimited]⟩
  intro isEmpty
  have noSteps := steps_joinPath base valid
  rw [isEmpty] at noSteps
  exact List.append_ne_nil_of_right_ne_nil _ (Text.segments_ne_nil _ _) noSteps.symm

/-- Every artifact of the tree can be written once all its directories are there. -/
theorem writable (spacious : tree.IsSpacious) (all : tree.directories ⊆ created)
    (member : path ∈ tree.paths) : Writable disk base (steps base) path := by
  have valid := Tree.isPath_of_mem_paths member
  have noNull := spacious.noNull path member
  have temporaryNoNull : '\x00' ∉ (temporaryPath path).toList := by
    rw [temporaryPath, String.toList_append, List.mem_append, not_or]
    exact ⟨noNull, by decide⟩
  have above : disk.find? (place (steps base) path).dropLast = some .directory := by
    rcases Tree.dropLast_place_cases (steps base) member with isRoot | ⟨directory, inTree, isPlace⟩
    · rw [isRoot]
      exact furnished.isBase.isDirectory
    · rw [isPlace]
      exact furnished.present directory (all inTree)
  have names := furnished.isBase.names valid (furnished.accepts fresh valid noNull)
    (fun component inPath => fits_of_le (spacious.fit path member component inPath)) above
  have namesTemporary := furnished.isBase.names (isPath_temporaryPath valid)
    (furnished.accepts fresh (isPath_temporaryPath valid) temporaryNoNull)
    (fun component inTemporary => spacious.fits_temporary member inTemporary)
    (by rw [dropLast_place_temporaryPath]; exact above)
  exact ⟨names, namesTemporary, furnished.free (spacious.notDirectory path member),
    furnished.free (spacious.temporaryNotDirectory path member)⟩

end IsFurnished

/-! ## The whole tree -/

/-- Whether what is below a location is a tree, with its artifacts as files and its directories
as directories. -/
structure IsStoredBelow (tree : Tree) (root : Location) (disk : Disk) : Prop where
  directory_iff : ∀ rest, rest ≠ [] →
    (disk.find? (root ++ rest) = some .directory ↔
      ∃ directory ∈ tree.directories, rest = Text.segments '/' directory)
  file_iff : ∀ rest octets, rest ≠ [] →
    (disk.find? (root ++ rest) = some (.file octets) ↔
      ∃ entry ∈ tree.contents.entries,
        rest = Text.segments '/' entry.1 ∧ octets = Text.Utf8.encode entry.2)

section Stored

variable {directed : Disk} (furnished : IsFurnished tree base tree.directories directed)
  (written : Written tree.contents.entries (steps base) directed after)

include furnished written

/-- What is below the base after the files were written: an artifact or a directory. -/
theorem artifact_or_directory_of_written {rest : Location} {entry : Disk.Entry}
    (nonempty : rest ≠ []) (stored : after.find? (steps base ++ rest) = some entry) :
    (∃ artifact ∈ tree.contents.entries, rest = Text.segments '/' artifact.1 ∧
      entry = .file (Text.Utf8.encode artifact.2)) ∨
    entry = .directory ∧ ∃ directory ∈ tree.directories, rest = Text.segments '/' directory := by
  by_cases isArtifact : ∃ artifact ∈ tree.contents.entries,
      steps base ++ rest = place (steps base) artifact.1
  · rcases isArtifact with ⟨artifact, member, isPlace⟩
    rw [isPlace, written.stored artifact member] at stored
    cases stored
    exact .inl ⟨artifact, member, List.append_cancel_left isPlace, rfl⟩
  · by_cases isTemporary : ∃ artifact ∈ tree.contents.entries,
        steps base ++ rest = place (steps base) (temporaryPath artifact.1)
    · rcases isTemporary with ⟨artifact, member, isPlace⟩
      rw [isPlace, written.cleared artifact member] at stored
      · cases stored
      · intro other otherMember same
        exact isArtifact ⟨other, otherMember, by rw [isPlace, same]⟩
    · rw [written.unchanged] at stored
      · exact .inr (furnished.nothingElse rest entry nonempty stored)
      · intro artifact member
        exact ⟨fun same => isArtifact ⟨artifact, member, same⟩,
          fun same => isTemporary ⟨artifact, member, same⟩⟩

theorem isStoredBelow_of_written (grows : Grows directed after) :
    IsStoredBelow tree (steps base) after := by
  constructor
  · intro rest nonempty
    constructor
    · intro stored
      rcases artifact_or_directory_of_written furnished written nonempty stored with
        ⟨_, _, _, isFile⟩ | ⟨_, isDirectory⟩
      · cases isFile
      · exact isDirectory
    · intro given
      rcases given with ⟨directory, member, rfl⟩
      exact grows.directories _ (furnished.present directory member)
  · intro rest octets nonempty
    constructor
    · intro stored
      rcases artifact_or_directory_of_written furnished written nonempty stored with
        ⟨artifact, member, isRest, isFile⟩ | ⟨isFile, _⟩
      · cases isFile
        exact ⟨artifact, member, isRest, rfl⟩
      · cases isFile
    · intro given
      rcases given with ⟨artifact, member, rfl, rfl⟩
      exact written.stored artifact member

end Stored

/-- An export to a fresh base succeeds, and stores the tree there. -/
theorem exists_performs_of_fresh (nonempty : tree.isEmpty = false) (spacious : tree.IsSpacious)
    (fresh : IsFreshBase before base) (unlimited : before.pathLimit? = none) :
    ∃ after, Performs (tree.exportActions base) before after ∧
      IsStoredBelow tree (steps base) after := by
  rcases fresh.exists_created unlimited with ⟨based, created, isBase, nothingBelow⟩
  have toBased := Disk.grows_of_createDirectories created
  have basedFurnished : IsFurnished tree base [] based := by
    refine ⟨?_, isBase, by simp, ?_⟩
    · rw [toBased.pathLimit]
      exact unlimited
    · intro rest entry belowBase stored
      rw [nothingBelow rest belowBase] at stored
      cases stored
  rcases basedFurnished.exists_performs fresh spacious (List.Subset.refl _) with
    ⟨directed, inDirectories, directedFurnished⟩
  have allPresent : tree.directories ⊆ tree.directories.reverse ++ [] := by simp
  have writable : ∀ entry ∈ tree.contents.entries, Writable directed base (steps base) entry.1 :=
    fun entry member => directedFurnished.writable fresh spacious allPresent
      (List.mem_map_of_mem member)
  rcases exists_performs_filesActions tree.isPath directedFurnished.isBase writable with
    ⟨after, inFiles⟩
  have written := written_of_performs tree.contents.ascending tree.isPath
    directedFurnished.isBase inFiles
  have furnished : IsFurnished tree base tree.directories directed :=
    { directedFurnished with present := fun directory member =>
        directedFurnished.present directory (allPresent member) }
  exact ⟨after, (performs_exportActions_iff nonempty).mpr
    ⟨based, directed, created, inDirectories, inFiles⟩,
    isStoredBelow_of_written furnished written inFiles.grows⟩

/-- An export to a fresh base changes nothing beside it: above it directories may be new. -/
theorem changes_of_fresh (fresh : IsFreshBase before base)
    (performed : Performs (tree.exportActions base) before after) {location : Location}
    (differs : after.find? location ≠ before.find? location) :
    steps base <+: location ∨ location <+: steps base ∧ before.find? location = none ∧
      after.find? location = some .directory := by
  have ends := Disk.Program.mayEnd_run before (Disk.Program.performAll (tree.exportActions base))
  rw [performed] at ends
  cases touches_of_mayEnd (fresh.hasStart before) ends differs with
  | above isFront leads absent isDirectory =>
      rw [fresh.eq_of_follow isFront leads] at absent isDirectory ⊢
      exact .inr ⟨isFront, absent, isDirectory⟩
  | below isBase touches =>
      rw [fresh.eq_root isBase] at touches
      cases touches with
      | directory _ isPlace => exact .inl (isPlace ▸ List.prefix_append _ _)
      | artifact _ isPlace => exact .inl (isPlace ▸ List.prefix_append _ _)
      | temporary _ isPlace => exact .inl (isPlace ▸ List.prefix_append _ _)

/-- An empty tree is exported to any base by doing nothing.  Any other tree that leaves room for
itself is exported to a fresh base with success; what is below the base is then the tree and
nothing else, and beside it nothing but missing directories above it has changed. -/
theorem exportTo_fresh (tree : Tree) (home? : Option String) (base : String) (disk : Disk) :
    (tree.isEmpty = true → ∀ expanded, expandHome home? base = .ok expanded →
      (tree.exportTo home? base).run disk = (.ok (), disk)) ∧
    (tree.isEmpty = false → tree.IsSpacious → IsFreshBase disk base → disk.pathLimit? = none →
      ∃ after, (tree.exportTo home? base).run disk = (.ok (), after) ∧
        IsStoredBelow tree (steps base) after ∧
          ∀ location, after.find? location ≠ disk.find? location →
            steps base <+: location ∨ location <+: steps base ∧ disk.find? location = none ∧
              after.find? location = some .directory) := by
  constructor
  · intro isEmpty expanded isExpanded
    rw [Tree.exportTo, isExpanded]
    simp only [Tree.exportActions, isEmpty, if_true]
    rfl
  · intro nonempty spacious fresh unlimited
    have noTilde : base.toList.head? ≠ some '~' := by
      rw [beq_iff_eq.mp fresh.absolute]
      decide
    rcases exists_performs_of_fresh nonempty spacious fresh unlimited with
      ⟨after, performed, stored⟩
    exact ⟨after, (run_exportTo_eq_ok_iff home? noTilde).mpr performed, stored,
      fun _ differs => changes_of_fresh fresh performed differs⟩

/-- A tree with a directory, and with an artifact at the temporary path of another one. -/
def Tree.nested : Tree :=
  (Tree.empty.put ⟨"lib/a", by decide⟩ "x").put ⟨"lib/a.tmp", by decide⟩ "y"

theorem Tree.isSpacious_nested : Tree.nested.IsSpacious where
  notDirectory := by decide
  temporaryNotDirectory := by decide
  noNull := by decide
  fit := by decide
  fileNameFits path member fileName isLast := by
    rw [show Tree.nested.paths = ["lib/a", "lib/a.tmp"] from rfl, List.mem_cons,
      List.mem_singleton] at member
    rcases member with rfl | rfl
    · cases (show some "a" = some fileName from isLast)
      decide
    · cases (show some "a.tmp" = some fileName from isLast)
      decide

theorem isFreshBase_out : IsFreshBase ⟨[], none, []⟩ "/out" where
  absolute := by decide
  noDots := by decide
  fit := by decide
  noNull := by decide
  noFile front isFront octets := by
    cases front with
    | nil => simp
    | cons name rest => exact (Option.some_ne_none _).symm
  nothingBelow rest _ := rfl

theorem exportTo_fresh_nested :
    Tree.nested.isEmpty = false ∧ Tree.nested.IsSpacious ∧ IsFreshBase ⟨[], none, []⟩ "/out" ∧
      ∃ after, (Tree.nested.exportTo none "/out").run ⟨[], none, []⟩ = (.ok (), after) ∧
        IsStoredBelow Tree.nested ["out"] after := by
  have fresh := exportTo_fresh Tree.nested none "/out" ⟨[], none, []⟩
  rcases fresh.2 rfl Tree.isSpacious_nested isFreshBase_out rfl with ⟨after, succeeds, stored, _⟩
  exact ⟨rfl, Tree.isSpacious_nested, isFreshBase_out, after, succeeds, stored⟩

end ServiceBindings.Artifact
