import ServiceBindings.Proofs.Disk.Operation
import ServiceBindings.Proofs.Text.Segments

/-!
# Creating directories

Creating the directories of a path makes directories, where nothing was, at places to which
leading names of the path lead, and changes nothing else, however far it gets.  If it succeeds,
the path leads to a directory; if it did so before, nothing happens.
-/

namespace ServiceBindings.Disk

variable {disk : Disk}

/-! ## Paths of given names -/

/-- Whether a text can stand between two slashes of a path. -/
def IsStep (name : String) : Prop := name ≠ "" ∧ '/' ∉ name.toList

theorem isStep_of_mem_steps {path name : String} (member : name ∈ steps path) : IsStep name := by
  rcases List.mem_filter.mp member with ⟨inSegments, nonempty⟩
  exact ⟨by simpa using nonempty, Text.separator_notMem_of_mem_segments inSegments⟩

theorem filter_isStep {names : List String} (areSteps : ∀ name ∈ names, IsStep name) :
    names.filter (!·.isEmpty) = names := by
  apply List.filter_eq_self.mpr
  intro name member
  simpa using (areSteps name member).1

theorem segments_pathOf_true (names : List String) :
    Text.segments '/' (pathOf true names) =
      "" :: Text.segments '/' (String.intercalate "/" names) :=
  Text.segments_append_separator_append "" (String.intercalate "/" names)

theorem steps_pathOf (absolute : Bool) {names : List String}
    (areSteps : ∀ name ∈ names, IsStep name) : steps (pathOf absolute names) = names := by
  have joined : (Text.segments '/' (String.intercalate "/" names)).filter (!·.isEmpty) =
      names := by
    by_cases noNames : names = []
    · rw [noNames]
      rfl
    · have cut := Text.segments_intercalate noNames fun name member => (areSteps name member).2
      exact (congrArg _ cut).trans (filter_isStep areSteps)
  cases absolute with
  | false =>
      rw [steps, pathOf, if_neg (by simp), String.empty_append]
      exact joined
  | true =>
      rw [steps, segments_pathOf_true, List.filter_cons_of_neg (by simp)]
      exact joined

theorem isAbsolute_pathOf (absolute : Bool) {names : List String}
    (areSteps : ∀ name ∈ names, IsStep name) : isAbsolute (pathOf absolute names) = absolute := by
  cases absolute with
  | true => simp [isAbsolute, pathOf]
  | false =>
      rw [isAbsolute, pathOf, if_neg (by simp), String.empty_append, String.toList_intercalate]
      cases names with
      | nil => rfl
      | cons name rest =>
          rcases areSteps name (by simp) with ⟨nonempty, noSlash⟩
          have nonemptyList : name.toList ≠ [] := by simpa using nonempty
          rcases List.exists_cons_of_ne_nil nonemptyList with ⟨first, others, isList⟩
          rw [isList, List.mem_cons, not_or] at noSlash
          cases rest with
          | nil => simpa [isList] using Ne.symm noSlash.1
          | cons second later => simpa [isList] using Ne.symm noSlash.1

/-! ## What changes -/

/-- Whether a disk turns into another one by making directories, where nothing was, at places
to which leading names lead. -/
structure Deepens (absolute : Bool) (names : List String) (before after : Disk) : Prop where
  grows : Grows before after
  made : ∀ location, after.find? location ≠ before.find? location →
    before.find? location = none ∧ after.find? location = some .directory ∧
      ∃ front, front <+: names ∧ after.follow (after.start absolute) front = .ok location

namespace Deepens

variable {absolute : Bool} {names : List String}

theorem refl (absolute : Bool) (names : List String) (disk : Disk) :
    Deepens absolute names disk disk :=
  ⟨.refl disk, fun _ differs => absurd rfl differs⟩

theorem trans {before middle after : Disk} (first : Deepens absolute names before middle)
    (second : Deepens absolute names middle after) : Deepens absolute names before after := by
  refine ⟨first.grows.trans second.grows, ?_⟩
  intro location differs
  by_cases madeFirst : middle.find? location = before.find? location
  · rw [← madeFirst] at differs ⊢
    exact second.made location differs
  · rcases first.made location madeFirst with ⟨absent, isDirectory, front, isPrefix, leads⟩
    refine ⟨absent, second.grows.directories _ isDirectory, front, isPrefix, ?_⟩
    rw [second.grows.start]
    exact second.grows.follow leads

theorem mono {more : List String} (isPrefix : names <+: more) {before after : Disk}
    (deepens : Deepens absolute names before after) : Deepens absolute more before after := by
  refine ⟨deepens.grows, ?_⟩
  intro location differs
  rcases deepens.made location differs with ⟨absent, isDirectory, front, isFront, leads⟩
  exact ⟨absent, isDirectory, front, isFront.trans isPrefix, leads⟩

/-- Making directories keeps every file and makes none. -/
theorem find?_eq_file_iff {before after : Disk} (deepens : Deepens absolute names before after)
    {location : Location} {octets : List UInt8} :
    after.find? location = some (.file octets) ↔ before.find? location = some (.file octets) := by
  by_cases same : after.find? location = before.find? location
  · rw [same]
  · rcases deepens.made location same with ⟨absent, isDirectory, _⟩
    rw [absent, isDirectory]
    simp

end Deepens

theorem deepens_makeDirectory {path : String} (hasStart : disk.HasStart (isAbsolute path))
    {made : Disk} (isMade : disk.makeDirectory path = .ok made) :
    Deepens (isAbsolute path) (steps path) disk made := by
  rcases makeDirectory_eq_ok_iff.mp isMade with ⟨location, names, absent, rfl⟩
  have free : disk.find? location ≠ some .directory := by simp [absent]
  have grows := names.grows_put free .directory
  have isDirectory : (disk.put location .directory).find? location = some .directory := by
    rw [names.find?_put hasStart free, if_pos rfl]
  refine ⟨grows, ?_⟩
  intro query differs
  cases names.eq_of_find?_put_ne hasStart free differs
  exact ⟨absent, isDirectory, steps path, List.prefix_rfl,
    (grows.names names).follow_steps isDirectory⟩

theorem deepens_makeDirectory_pathOf {absolute : Bool} {names : List String}
    (areSteps : ∀ name ∈ names, IsStep name) (hasStart : disk.HasStart absolute) {made : Disk}
    (isMade : disk.makeDirectory (pathOf absolute names) = .ok made) :
    Deepens absolute names disk made := by
  have sameStart := isAbsolute_pathOf absolute areSteps
  have deepens := deepens_makeDirectory (sameStart.symm ▸ hasStart) isMade
  rwa [steps_pathOf absolute areSteps, sameStart] at deepens

/-- Deepening a disk where paths start at a directory is a relation that can be composed. -/
theorem deepens_trans_of_hasStart {absolute : Bool} {names : List String}
    {before middle after : Disk}
    (first : before.HasStart absolute → Deepens absolute names before middle)
    (second : middle.HasStart absolute → Deepens absolute names middle after)
    (hasStart : before.HasStart absolute) : Deepens absolute names before after :=
  (first hasStart).trans (second ((first hasStart).grows.hasStart hasStart))

theorem deepens_ensureAbove {absolute : Bool} (hasStart : disk.HasStart absolute)
    {names : List String} (areSteps : ∀ name ∈ names, IsStep name) :
    Deepens absolute names.reverse disk (disk.ensureAbove absolute names).1 := by
  refine ensureAbove_induct
    (fun before after => before.HasStart absolute → Deepens absolute names.reverse before after)
    (fun disk _ => .refl _ _ disk) deepens_trans_of_hasStart ?_ disk hasStart
  intro before made front isFront isMade hasStart
  have frontSteps : ∀ name ∈ front, IsStep name :=
    fun name member => areSteps name (List.mem_reverse.mp (isFront.subset member))
  exact (deepens_makeDirectory_pathOf frontSteps hasStart isMade).mono isFront

/-- Creating directories makes leading directories of the path, whether or not it succeeds. -/
theorem deepens_createDirectories {path : String}
    (hasStart : disk.HasStart (isAbsolute path)) :
    Deepens (isAbsolute path) (steps path) disk (disk.createDirectories path).1 := by
  refine createDirectories_induct
    (fun before after =>
      before.HasStart (isAbsolute path) → Deepens (isAbsolute path) (steps path) before after)
    (fun disk _ => .refl _ _ disk) deepens_trans_of_hasStart ?_ ?_ disk hasStart
  · intro before made front isFront isMade hasStart
    have frontSteps : ∀ name ∈ front, IsStep name :=
      fun name member => isStep_of_mem_steps (isFront.subset member)
    exact (deepens_makeDirectory_pathOf frontSteps hasStart isMade).mono isFront
  · intro before made isMade hasStart
    exact deepens_makeDirectory hasStart isMade

/-! ## What success means -/

theorem isDirectory_of_ensureDirectory {path : String}
    (hasStart : disk.HasStart (isAbsolute path))
    (succeeds : (disk.ensureDirectory path).2 = none) :
    (disk.ensureDirectory path).1.isDirectory path = true := by
  rw [ensureDirectory] at succeeds ⊢
  split at succeeds
  · rename_i made isMade
    exact isDirectory_of_makeDirectory hasStart isMade
  · simpa using succeeds

/-- After its directories were created, a path of any names leads to a directory. -/
theorem isDirectory_of_createDirectories {path : String}
    (hasStart : disk.HasStart (isAbsolute path)) (hasSteps : steps path ≠ [])
    (succeeds : (disk.createDirectories path).2 = none) :
    (disk.createDirectories path).1.isDirectory path = true := by
  rw [createDirectories, if_neg (by simpa using hasSteps)] at succeeds ⊢
  split at succeeds
  · rename_i made isMade
    exact isDirectory_of_makeDirectory hasStart isMade
  · have isSuffix := tail_dropWhile_reverse_suffix (steps path)
    have above := deepens_ensureAbove hasStart
      fun name member => isStep_of_mem_steps (List.mem_reverse.mp (isSuffix.subset member))
    split at succeeds
    · rename_i made ensured
      rw [ensured] at above
      exact isDirectory_of_ensureDirectory (above.grows.hasStart hasStart) succeeds
    · rename_i failed
      rcases isFailed : disk.ensureAbove (isAbsolute path)
          ((steps path).reverse.dropWhile (· == ".")).tail with ⟨made, fault?⟩
      rw [isFailed] at succeeds
      simp only at succeeds
      subst succeeds
      exact absurd isFailed (failed made)
  · simpa using succeeds

/-- Where there is a directory already, creating it changes nothing. -/
theorem createDirectories_of_isDirectory {path : String}
    (isDirectory : disk.isDirectory path = true) : disk.createDirectories path = (disk, none) := by
  by_cases noSteps : (steps path).isEmpty = true
  · rw [createDirectories, if_pos noSteps]
  · rw [createDirectories, if_neg noSteps, makeDirectory_of_isDirectory isDirectory]
    simp only [isDirectory, if_true]

theorem createDirectories_of_steps_eq_nil {path : String} (noSteps : steps path = []) :
    disk.createDirectories path = (disk, none) := by
  rw [createDirectories, if_pos (by simp [noSteps])]

/-- The names of a path lead somewhere once its directories were created. -/
theorem exists_follow_of_createDirectories {path : String}
    (hasStart : disk.HasStart (isAbsolute path)) {created : Disk}
    (isCreated : disk.createDirectories path = (created, none)) :
    ∃ root, created.follow (created.start (isAbsolute path)) (steps path) = .ok root := by
  by_cases noSteps : steps path = []
  · exact ⟨_, by rw [noSteps]; rfl⟩
  · have isDirectory := isDirectory_of_createDirectories hasStart noSteps (by rw [isCreated])
    rw [isCreated] at isDirectory
    rcases isDirectory_iff.mp isDirectory with ⟨target, located, stored⟩
    exact ⟨_, follow_of_locate located stored⟩

/-- Directories that were created once need not be created again. -/
theorem createDirectories_again {path : String} (hasStart : disk.HasStart (isAbsolute path))
    {created later : Disk} (isCreated : disk.createDirectories path = (created, none))
    (grows : Grows created later) : later.createDirectories path = (later, none) := by
  by_cases noSteps : steps path = []
  · exact createDirectories_of_steps_eq_nil noSteps
  · have isDirectory := isDirectory_of_createDirectories hasStart noSteps (by rw [isCreated])
    rw [isCreated] at isDirectory
    exact createDirectories_of_isDirectory (grows.isDirectory isDirectory)

end ServiceBindings.Disk
