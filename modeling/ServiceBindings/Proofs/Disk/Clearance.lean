import ServiceBindings.Proofs.Disk.Directories

/-!
# Clear ways

Directories can be created along names as long as no file is on the way and each name is one
that a directory can hold.  The only thing that can go wrong then is that a directory above is
missing, and that one is made first.
-/

namespace ServiceBindings.Disk

variable {disk : Disk}

/-- Whether directories can be made along names: there are no dots among them, each is short
enough and can stand in a path, and no file is on the way. -/
structure IsClear (disk : Disk) (absolute : Bool) (names : List String) : Prop where
  noDots : ∀ name ∈ names, isDots name = false
  fit : ∀ name ∈ names, fits name = true
  noNull : ∀ name ∈ names, '\x00' ∉ name.toList
  noFile : ∀ front, front <+: names → ∀ octets,
    disk.find? (disk.start absolute ++ front) ≠ some (.file octets)

namespace IsClear

variable {absolute : Bool} {names : List String}

theorem of_prefix {front : List String} (clear : disk.IsClear absolute names)
    (isPrefix : front <+: names) : disk.IsClear absolute front where
  noDots name member := clear.noDots name (isPrefix.subset member)
  fit name member := clear.fit name (isPrefix.subset member)
  noNull name member := clear.noNull name (isPrefix.subset member)
  noFile other isFront := clear.noFile other (isFront.trans isPrefix)

theorem of_deepens {more : List String} {after : Disk} (clear : disk.IsClear absolute names)
    (deepens : Deepens absolute more disk after) : after.IsClear absolute names := by
  refine ⟨clear.noDots, clear.fit, clear.noNull, ?_⟩
  intro front isFront octets isFile
  rw [deepens.grows.start] at isFile
  by_cases unchanged : after.find? (disk.start absolute ++ front) =
      disk.find? (disk.start absolute ++ front)
  · exact clear.noFile front isFront octets (unchanged ▸ isFile)
  · rw [(deepens.made _ unchanged).2.1] at isFile
    cases isFile

end IsClear

/-- Where no file is on the way, following names fails only if a directory is missing. -/
theorem follow_of_noFile {location : Location} {names : List String}
    (noDots : ∀ name ∈ names, isDots name = false) (fit : ∀ name ∈ names, fits name = true)
    (noFile : ∀ front, front <+: names → ∀ octets,
      disk.find? (location ++ front) ≠ some (.file octets)) :
    (∃ next, disk.follow location names = .ok next) ∨
      disk.follow location names = .error .notFound := by
  induction names generalizing location with
  | nil => exact .inl ⟨location, rfl⟩
  | cons name rest ih =>
      have nameNoDots := noDots name (List.mem_cons_self ..)
      rw [isDots, Bool.or_eq_false_iff, decide_eq_false_iff_not, decide_eq_false_iff_not]
        at nameNoDots
      rw [follow, enter, if_neg nameNoDots.1, if_neg nameNoDots.2,
        fit name (List.mem_cons_self ..)]
      cases stored : disk.find? (location ++ [name]) with
      | none => exact .inr rfl
      | some entry =>
          cases entry with
          | file octets =>
              have isFront : [name] <+: name :: rest := ⟨rest, rfl⟩
              exact absurd stored (noFile [name] isFront octets)
          | directory =>
              refine ih (fun other member => noDots other (List.mem_cons_of_mem _ member))
                (fun other member => fit other (List.mem_cons_of_mem _ member)) ?_
              intro front isFront octets
              rw [List.append_assoc]
              exact noFile _ (List.cons_prefix_cons.mpr ⟨rfl, isFront⟩) octets

section Clear

variable {path name : String} {front : List String} (accepts : disk.Accepts path)
  (isSteps : steps path = front ++ [name])
  (clear : disk.IsClear (isAbsolute path) (front ++ [name]))

include accepts isSteps clear

theorem locate_of_isClear :
    (∃ directory, disk.follow (disk.start (isAbsolute path)) front = .ok directory ∧
      disk.locate path = .ok ⟨directory, some name⟩) ∨
    (disk.follow (disk.start (isAbsolute path)) front = .error .notFound ∧
      disk.locate path = .error .notFound) := by
  have toFront := clear.of_prefix (List.prefix_append front [name])
  rw [locate_of_accepts accepts, isSteps, target_concat _ _ (clear.noDots name (by simp))]
  rcases follow_of_noFile toFront.noDots toFront.fit toFront.noFile with
    ⟨directory, followed⟩ | missing
  · refine .inl ⟨directory, followed, ?_⟩
    rw [followed]
    exact if_pos (clear.fit name (by simp))
  · refine .inr ⟨missing, ?_⟩
    rw [missing]
    rfl

/-- Where the way is clear, a directory is made or is there already, unless the one above it is
missing. -/
theorem makeDirectory_of_isClear (hasStart : disk.HasStart (isAbsolute path)) :
    (∃ made, disk.makeDirectory path = .ok made) ∨
      (disk.makeDirectory path = .error .notFound ∧
        disk.follow (disk.start (isAbsolute path)) front = .error .notFound) ∨
      disk.makeDirectory path = .error .alreadyExists ∧ disk.isDirectory path = true := by
  rcases locate_of_isClear accepts isSteps clear with ⟨directory, followed, located⟩ | missing
  · have isPlace : directory = disk.start (isAbsolute path) ++ front :=
      ((follow_eq_ok_iff (fun other member => clear.noDots other (by simp [member]))
        hasStart).mp followed).1
    have notFile := clear.noFile (front ++ [name]) List.prefix_rfl
    rw [← List.append_assoc, ← isPlace] at notFile
    cases stored : disk.find? (directory ++ [name]) with
    | none =>
        exact .inl ⟨_, makeDirectory_eq_ok_iff.mpr
          ⟨_, ⟨directory, name, located, rfl⟩, stored, rfl⟩⟩
    | some entry =>
        cases entry with
        | file octets => exact absurd stored (notFile octets)
        | directory =>
            have isDirectory : disk.isDirectory path = true :=
              isDirectory_iff.mpr ⟨_, located, stored⟩
            exact .inr (.inr ⟨makeDirectory_of_isDirectory isDirectory, isDirectory⟩)
  · refine .inr (.inl ⟨?_, missing.1⟩)
    simp only [makeDirectory, missing.2]

theorem ensureDirectory_of_isClear (hasStart : disk.HasStart (isAbsolute path))
    {above : Location}
    (followed : disk.follow (disk.start (isAbsolute path)) front = .ok above) :
    (disk.ensureDirectory path).2 = none := by
  rw [ensureDirectory]
  rcases makeDirectory_of_isClear accepts isSteps clear hasStart with
    ⟨made, isMade⟩ | ⟨_, missing⟩ | ⟨alreadyExists, isDirectory⟩
  · rw [isMade]
  · rw [missing] at followed
    cases followed
  · rw [alreadyExists]
    exact if_pos isDirectory

end Clear

theorem accepts_pathOf (unlimited : disk.pathLimit? = none) (absolute : Bool)
    {names : List String} (noNames : names ≠ []) (areSteps : ∀ name ∈ names, IsStep name)
    (noNull : ∀ name ∈ names, '\x00' ∉ name.toList) : disk.Accepts (pathOf absolute names) := by
  refine ⟨?_, ?_, by simp [admits, unlimited]⟩
  · have notInSlash : '\x00' ∉ "/".toList := by decide
    have inNames := Text.notMem_intercalate notInSlash noNull
    rw [pathOf]
    split
    · simpa using inNames
    · simpa using inNames
  · intro isEmpty
    have sameSteps := steps_pathOf absolute areSteps
    rw [isEmpty] at sameSteps
    exact noNames sameSteps.symm

theorem Grows.accepts {before after : Disk} (grows : Grows before after) {path : String}
    (accepts : before.Accepts path) : after.Accepts path := by
  refine ⟨accepts.noNull, accepts.nonempty, ?_⟩
  rw [admits, grows.pathLimit]
  exact accepts.admitted

/-- Where the way is clear, all missing directories above a path can be made. -/
theorem ensureAbove_of_isClear {absolute : Bool} (hasStart : disk.HasStart absolute)
    (unlimited : disk.pathLimit? = none) {names : List String}
    (areSteps : ∀ name ∈ names, IsStep name) (clear : disk.IsClear absolute names.reverse) :
    ∃ made above, disk.ensureAbove absolute names = (made, none) ∧
      made.follow (made.start absolute) names.reverse = .ok above := by
  induction names with
  | nil => exact ⟨disk, _, rfl, rfl⟩
  | cons name above ih =>
      have reverseSteps : ∀ other ∈ (name :: above).reverse, IsStep other :=
        fun other member => areSteps other (List.mem_reverse.mp member)
      have isSteps := steps_pathOf absolute reverseSteps
      have sameStart := isAbsolute_pathOf absolute reverseSteps
      have accepts := accepts_pathOf unlimited absolute (by simp) reverseSteps clear.noNull
      have clearAbove := clear.of_prefix (isPrefix_reverse_cons name above)
      have notDot : name ≠ "." := by
        intro isDot
        have noDots := clear.noDots name (by simp)
        rw [isDot] at noDots
        exact absurd noDots (by decide)
      rw [ensureAbove, if_neg notDot]
      simp only
      generalize isPath : pathOf absolute (name :: above).reverse = path at *
      subst sameStart
      have isCut : steps path = above.reverse ++ [name] := isSteps.trans List.reverse_cons
      have leads : ∀ left : Disk, left.isDirectory path = true → ∃ location,
          left.follow (left.start (isAbsolute path)) (name :: above).reverse = .ok location := by
        intro left nowDirectory
        rcases isDirectory_iff.mp nowDirectory with ⟨target, located, stored⟩
        exact ⟨_, isSteps ▸ follow_of_locate located stored⟩
      rw [List.reverse_cons] at clear
      rcases makeDirectory_of_isClear accepts isCut clear hasStart with
        ⟨made, isMade⟩ | ⟨isMissing, _⟩ | ⟨alreadyExists, isDirectory⟩
      · rw [isMade]
        rcases leads made (isDirectory_of_makeDirectory hasStart isMade) with
          ⟨location, followed⟩
        exact ⟨made, location, rfl, followed⟩
      · rcases ih (fun other member => areSteps other (List.mem_cons_of_mem _ member)) clearAbove
          with ⟨made, location, ensured, followed⟩
        have deepens := deepens_ensureAbove hasStart
          (fun other member => areSteps other (List.mem_cons_of_mem name member))
        rw [ensured] at deepens
        have madeStart := deepens.grows.hasStart hasStart
        have succeeds := ensureDirectory_of_isClear (deepens.grows.accepts accepts) isCut
          (clear.of_deepens deepens) madeStart followed
        rcases leads _ (isDirectory_of_ensureDirectory madeStart succeeds) with
          ⟨place, followedPlace⟩
        rw [isMissing, ensured]
        exact ⟨_, place, Prod.ext rfl succeeds, followedPlace⟩
      · rw [alreadyExists]
        rcases leads disk isDirectory with ⟨location, followed⟩
        exact ⟨disk, location, by simp only [isDirectory, if_true], followed⟩

/-- Where the way is clear, the directories of a path can be created. -/
theorem createDirectories_of_isClear {path : String}
    (hasStart : disk.HasStart (isAbsolute path)) (unlimited : disk.pathLimit? = none)
    (noNull : '\x00' ∉ path.toList)
    (clear : disk.IsClear (isAbsolute path) (steps path)) :
    (disk.createDirectories path).2 = none := by
  rcases List.eq_nil_or_concat' (steps path) with noSteps | ⟨front, name, isCut⟩
  · rw [createDirectories_of_steps_eq_nil noSteps]
  · have nonempty : path ≠ "" := by
      intro isEmpty
      rw [isEmpty] at isCut
      exact absurd isCut.symm (List.append_ne_nil_of_right_ne_nil _ (List.cons_ne_nil _ _))
    have accepts : disk.Accepts path := ⟨noNull, nonempty, by simp [admits, unlimited]⟩
    have frontSteps : ∀ other ∈ front.reverse, IsStep other := by
      intro other member
      exact isStep_of_mem_steps (isCut ▸ List.mem_append_left _ (List.mem_reverse.mp member))
    have hasSteps : ¬(steps path).isEmpty = true := by simp [isCut]
    have noDots := clear.noDots name (by simp [isCut])
    have above : ((steps path).reverse.dropWhile (· == ".")).tail = front.reverse := by
      rw [isDots, Bool.or_eq_false_iff, decide_eq_false_iff_not] at noDots
      rw [isCut, List.reverse_concat, List.dropWhile_cons_of_neg (by simpa using noDots.1),
        List.tail_cons]
    rw [isCut] at clear
    have clearFront : disk.IsClear (isAbsolute path) front.reverse.reverse := by
      rw [List.reverse_reverse]
      exact clear.of_prefix (List.prefix_append _ _)
    rw [createDirectories, if_neg hasSteps, above]
    rcases makeDirectory_of_isClear accepts isCut clear hasStart with
      ⟨made, isMade⟩ | ⟨isMissing, _⟩ | ⟨alreadyExists, isDirectory⟩
    · rw [isMade]
    · rcases ensureAbove_of_isClear hasStart unlimited frontSteps clearFront
        with ⟨made, location, ensured, followed⟩
      have deepens := deepens_ensureAbove hasStart frontSteps
      rw [ensured] at deepens
      rw [List.reverse_reverse] at followed
      rw [isMissing, ensured]
      exact ensureDirectory_of_isClear (deepens.grows.accepts accepts) isCut
        (clear.of_deepens deepens) (deepens.grows.hasStart hasStart) followed
    · rw [alreadyExists]
      simp only [isDirectory, if_true]

end ServiceBindings.Disk
