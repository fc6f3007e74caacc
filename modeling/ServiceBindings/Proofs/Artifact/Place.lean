import ServiceBindings.Artifact.Export
import ServiceBindings.Proofs.Dictionary
import ServiceBindings.Proofs.Disk.Directories
import ServiceBindings.Proofs.Disk.Joining

/-!
# Places of artifacts

Below a base directory every artifact has a place of its own, which its path names.  The
temporary path beside an artifact is an artifact path too; it comes after the path itself in
the order of texts.
-/

namespace ServiceBindings.Artifact

open Disk (Deepens Grows Location isAbsolute joinPath steps)

/-! ## Artifact paths -/

theorem isName_of_mem_segments {path component : String} (valid : isPath path = true)
    (member : component ∈ Text.segments '/' path) : isName component = true :=
  List.all_eq_true.mp valid component member

theorem isDots_of_isName {name : String} (valid : isName name = true) :
    Disk.isDots name = false := by
  rw [isName, Bool.and_eq_true, Bool.and_eq_true, bne_iff_ne, bne_iff_ne] at valid
  simp [Disk.isDots, valid.1.2, valid.2]

theorem nonempty_of_isName {name : String} (valid : isName name = true) : name ≠ "" := by
  rw [isName, Bool.and_eq_true, Bool.and_eq_true] at valid
  simpa using valid.1.1

theorem isStep_of_mem_segments {path component : String} (valid : isPath path = true)
    (member : component ∈ Text.segments '/' path) : Disk.IsStep component :=
  ⟨nonempty_of_isName (isName_of_mem_segments valid member),
    Text.separator_notMem_of_mem_segments member⟩

theorem isDots_of_mem_segments {path component : String} (valid : isPath path = true)
    (member : component ∈ Text.segments '/' path) : Disk.isDots component = false :=
  isDots_of_isName (isName_of_mem_segments valid member)

theorem exists_segments_eq (path : String) :
    ∃ front last, Text.segments '/' path = front ++ [last] := by
  rcases List.eq_nil_or_concat' (Text.segments '/' path) with noSegments | ⟨front, last, isCut⟩
  · exact absurd noSegments (Text.segments_ne_nil _ _)
  · exact ⟨front, last, isCut⟩

theorem isAbsolute_of_isPath {path : String} (valid : isPath path = true) :
    isAbsolute path = false := by
  by_contra absolute
  rw [Bool.not_eq_false, isAbsolute, beq_iff_eq, List.head?_eq_some_iff] at absolute
  rcases absolute with ⟨rest, isList⟩
  have cut : path = "" ++ String.singleton '/' ++ String.ofList rest := by
    apply String.ext_iff.mpr
    simp [isList]
  have emptyMember : "" ∈ Text.segments '/' path := by
    rw [cut, Text.segments_append_separator_append]
    exact List.mem_append_left _ (List.mem_singleton.mpr rfl)
  exact nonempty_of_isName (isName_of_mem_segments valid emptyMember) rfl

theorem endsInSlash_of_isPath {path : String} (valid : isPath path = true) :
    Disk.endsInSlash path = false := by
  by_contra slash
  rw [Bool.not_eq_false, Disk.endsInSlash, beq_iff_eq, List.getLast?_eq_some_iff] at slash
  rcases slash with ⟨front, isList⟩
  have cut : path = String.ofList front ++ String.singleton '/' ++ "" := by
    apply String.ext_iff.mpr
    simp [isList]
  have emptyMember : "" ∈ Text.segments '/' path := by
    rw [cut, Text.segments_append_separator_append]
    exact List.mem_append_right _ (List.mem_singleton.mpr rfl)
  exact nonempty_of_isName (isName_of_mem_segments valid emptyMember) rfl

theorem nonempty_of_isPath {path : String} (valid : isPath path = true) : path ≠ "" := by
  intro isEmpty
  subst isEmpty
  exact absurd valid (by decide)

/-! ## Temporary paths -/

theorem segments_temporaryPath {path last : String} {front : List String}
    (isCut : Text.segments '/' path = front ++ [last]) :
    Text.segments '/' (temporaryPath path) = front ++ [last ++ ".tmp"] :=
  Text.segments_append_of_absent isCut (by decide)

theorem isPath_temporaryPath {path : String} (valid : isPath path = true) :
    isPath (temporaryPath path) = true := by
  rcases exists_segments_eq path with ⟨front, last, isCut⟩
  rw [isPath, segments_temporaryPath isCut, List.all_append]
  rw [isPath, isCut, List.all_append, Bool.and_eq_true] at valid
  have lastValid : isName (last ++ ".tmp") = true := by
    have notShort : ∀ other : String, other.length < 4 → last ++ ".tmp" ≠ other := by
      intro other short same
      have lengths := congrArg String.length same
      rw [String.length_append, show String.length ".tmp" = 4 from rfl] at lengths
      omega
    have notEmpty := notShort "" (by decide)
    simp [isName, notEmpty, notShort "." (by decide), notShort ".." (by decide)]
  simp [valid.1, lastValid]

theorem temporaryPath_inj {left right : String} :
    temporaryPath left = temporaryPath right ↔ left = right :=
  String.append_left_inj ".tmp"

theorem lt_temporaryPath (path : String) : path < temporaryPath path :=
  Text.lt_append path (by decide)

/-! ## Paths below a base directory -/

theorem isAbsolute_joinPath (base : String) {path : String} (valid : isPath path = true) :
    isAbsolute (joinPath base path) = isAbsolute base :=
  Disk.isAbsolute_joinPath base (isAbsolute_of_isPath valid)

theorem steps_of_isPath {path : String} (valid : isPath path = true) :
    steps path = Text.segments '/' path :=
  Disk.filter_isStep fun _ member => isStep_of_mem_segments valid member

theorem steps_joinPath (base : String) {path : String} (valid : isPath path = true) :
    steps (joinPath base path) = steps base ++ Text.segments '/' path := by
  rw [Disk.steps_joinPath base (isAbsolute_of_isPath valid), steps_of_isPath valid]

theorem temporaryPath_joinPath (base : String) {path : String} (valid : isPath path = true) :
    temporaryPath (joinPath base path) = joinPath base (temporaryPath path) := by
  rw [joinPath, joinPath, isAbsolute_of_isPath valid,
    isAbsolute_of_isPath (isPath_temporaryPath valid), temporaryPath, temporaryPath]
  split
  · rfl
  · split
    · rw [String.append_assoc]
    · rw [String.append_assoc]

theorem endsInSlash_joinPath (base : String) {path : String} (valid : isPath path = true) :
    Disk.endsInSlash (joinPath base path) = false := by
  have ofAppend (front : String) : Disk.endsInSlash (front ++ path) = Disk.endsInSlash path := by
    rw [Disk.endsInSlash, Disk.endsInSlash, String.toList_append,
      List.getLast?_append_of_ne_nil _ (by simpa using nonempty_of_isPath valid)]
  rcases Disk.joinPath_cases base (isAbsolute_of_isPath valid) with ⟨_, isPath⟩ |
    ⟨front, _, isPath⟩ | ⟨_, isPath⟩
  · rw [isPath, endsInSlash_of_isPath valid]
  · rw [isPath, ofAppend, endsInSlash_of_isPath valid]
  · rw [isPath, ofAppend, endsInSlash_of_isPath valid]

theorem notMem_joinPath {c : Char} (notSlash : c ≠ '/') {base path : String}
    (notInBase : c ∉ base.toList) (notInPath : c ∉ path.toList) :
    c ∉ (joinPath base path).toList := by
  rw [joinPath]
  split
  · exact notInPath
  · split
    · simp [notInBase, notInPath]
    · simp [notInBase, notInPath, notSlash]

/-! ## Places below a base directory -/

/-- The place of a path below a root. -/
def place (root : Location) (path : String) : Location := root ++ Text.segments '/' path

theorem place_inj {root : Location} {left right : String} :
    place root left = place root right ↔ left = right := by
  constructor
  · intro same
    exact Text.segments_inj (List.append_cancel_left same)
  · intro same
    rw [same]

/-- Whether the names of a base directory lead from one directory to another one. -/
structure IsBase (disk : Disk) (base : String) (root : Location) : Prop where
  hasStart : disk.HasStart (isAbsolute base)
  leads : disk.follow (disk.start (isAbsolute base)) (steps base) = .ok root

namespace IsBase

variable {disk : Disk} {base path : String} {root : Location}

theorem isDirectory (isBase : IsBase disk base root) : disk.find? root = some .directory :=
  Disk.find?_of_follow isBase.hasStart isBase.leads

/-- Artifact paths below a base start where the base does. -/
theorem hasStart_joinPath (isBase : IsBase disk base root) (valid : isPath path = true) :
    disk.HasStart (isAbsolute (joinPath base path)) := by
  rw [isAbsolute_joinPath base valid]
  exact isBase.hasStart

theorem of_grows {after : Disk} (isBase : IsBase disk base root) (grows : Grows disk after) :
    IsBase after base root := by
  refine ⟨grows.hasStart isBase.hasStart, ?_⟩
  rw [grows.start]
  exact grows.follow isBase.leads

theorem of_createDirectories (hasStart : disk.HasStart (isAbsolute base)) {created : Disk}
    (isCreated : disk.createDirectories base = (created, none)) :
    ∃ root, IsBase created base root := by
  rcases Disk.exists_follow_of_createDirectories hasStart isCreated with ⟨root, leads⟩
  have grows : Grows disk created := by
    have deepens := Disk.deepens_createDirectories hasStart
    rw [isCreated] at deepens
    exact deepens.grows
  exact ⟨root, grows.hasStart hasStart, leads⟩

/-- An artifact path below a base names the place of the artifact. -/
theorem eq_place_of_names (isBase : IsBase disk base root) (valid : isPath path = true)
    {location : Location} (names : disk.Names (joinPath base path) location) :
    location = place root path := by
  rcases names with ⟨directory, name, located, rfl⟩
  rcases (Disk.locate_eq_some_iff.mp located).2 with ⟨front, isSteps, _, _, followed⟩
  rcases exists_segments_eq path with ⟨pathFront, last, isCut⟩
  rw [steps_joinPath base valid, isCut, ← List.append_assoc] at isSteps
  rcases List.append_inj' isSteps rfl with ⟨rfl, isLast⟩
  cases isLast
  rw [isAbsolute_joinPath base valid, Disk.follow_append_eq_ok_iff] at followed
  rcases followed with ⟨middle, toBase, followed⟩
  rw [isBase.leads] at toBase
  cases toBase
  have noDots : ∀ component ∈ pathFront, Disk.isDots component = false :=
    fun component member => isDots_of_mem_segments valid (isCut ▸ List.mem_append_left _ member)
  rcases (Disk.follow_eq_ok_iff noDots isBase.isDirectory).mp followed with ⟨rfl, _⟩
  rw [place, isCut, List.append_assoc]

/-- An artifact path below a base names its place if the directories above it are there. -/
theorem names (isBase : IsBase disk base root) (valid : isPath path = true)
    (accepts : disk.Accepts (joinPath base path))
    (fit : ∀ component ∈ Text.segments '/' path, Disk.fits component = true)
    (above : disk.find? (place root path).dropLast = some .directory) :
    disk.Names (joinPath base path) (place root path) := by
  rcases exists_segments_eq path with ⟨front, last, isCut⟩
  have isPlace : place root path = root ++ front ++ [last] := by
    rw [place, isCut, List.append_assoc]
  rw [isPlace, List.dropLast_concat] at above
  have noDots : ∀ component ∈ front ++ [last], Disk.isDots component = false :=
    fun component member => isDots_of_mem_segments valid (isCut ▸ member)
  have toFront : disk.follow root front = .ok (root ++ front) := by
    refine (Disk.follow_eq_ok_iff (fun component member => noDots component
      (List.mem_append_left _ member)) isBase.isDirectory).mpr ⟨rfl, ?_, above⟩
    intro component member
    exact fit component (isCut ▸ List.mem_append_left _ member)
  rw [isPlace]
  refine ⟨root ++ front, last, Disk.locate_eq_some_iff.mpr ⟨accepts, steps base ++ front, ?_⟩, rfl⟩
  refine ⟨by rw [steps_joinPath base valid, isCut, List.append_assoc], noDots last (by simp),
    fit last (by simp [isCut]), ?_⟩
  rw [isAbsolute_joinPath base valid, Disk.follow_append_eq_ok_iff]
  exact ⟨root, isBase.leads, toFront⟩

/-- An artifact path below a base that leads to a directory leads to its place. -/
theorem find?_place (isBase : IsBase disk base root) (valid : isPath path = true)
    (isDirectory : disk.isDirectory (joinPath base path) = true) :
    disk.find? (place root path) = some .directory := by
  rcases Disk.isDirectory_iff.mp isDirectory with ⟨target, located, stored⟩
  have followed := Disk.follow_of_locate located stored
  rw [isAbsolute_joinPath base valid, steps_joinPath base valid,
    Disk.follow_append_eq_ok_iff] at followed
  rcases followed with ⟨middle, toBase, inside⟩
  rw [isBase.leads] at toBase
  cases toBase
  have noDots : ∀ component ∈ Text.segments '/' path, Disk.isDots component = false :=
    fun component member => isDots_of_mem_segments valid member
  rcases (Disk.follow_eq_ok_iff noDots isBase.isDirectory).mp inside with ⟨isPlace, _⟩
  rw [place, ← isPlace]
  exact stored

/-- Creating the directories of an artifact path below a base makes leading parts of it. -/
theorem exists_place_of_deepens (isBase : IsBase disk base root) (valid : isPath path = true)
    {after : Disk}
    (deepens : Deepens (isAbsolute (joinPath base path)) (steps (joinPath base path)) disk after)
    {location : Location} (differs : after.find? location ≠ disk.find? location) :
    disk.find? location = none ∧ after.find? location = some .directory ∧ ∃ front,
      Text.segments '/' front <+: Text.segments '/' path ∧ location = place root front := by
  rcases deepens.made location differs with ⟨absent, isMade, front, isPrefix, leads⟩
  refine ⟨absent, isMade, ?_⟩
  rw [isAbsolute_joinPath base valid] at leads
  rw [steps_joinPath base valid] at isPrefix
  -- Names that lead no further than the base lead to what was there before.
  have beyondBase : ¬front <+: steps base := by
    intro within
    rcases within with ⟨rest, isSteps⟩
    have leadsToBase := isBase.leads
    rw [← isSteps, Disk.follow_append_eq_ok_iff] at leadsToBase
    rcases leadsToBase with ⟨middle, toMiddle, _⟩
    have sameLocation : middle = location := by
      have stillLeads := deepens.grows.follow toMiddle
      rw [deepens.grows.start, stillLeads] at leads
      cases leads
      rfl
    rw [sameLocation] at toMiddle
    rw [Disk.find?_of_follow isBase.hasStart toMiddle] at absent
    cases absent
  rcases List.prefix_or_prefix_of_prefix isPrefix (List.prefix_append _ _) with within | beyond
  · exact absurd within beyondBase
  · rcases beyond with ⟨inner, rfl⟩
    have innerPrefix := (List.prefix_append_right_inj _).mp isPrefix
    have nonempty : inner ≠ [] := by
      intro atBase
      rw [atBase, List.append_nil] at beyondBase
      exact beyondBase List.prefix_rfl
    have fromBase := isBase.of_grows deepens.grows
    rw [Disk.follow_append_eq_ok_iff] at leads
    rcases leads with ⟨middle, toBase, inside⟩
    rw [fromBase.leads] at toBase
    cases toBase
    have areSegments := Text.segments_intercalate nonempty fun component member =>
      Text.separator_notMem_of_mem_segments (innerPrefix.subset member)
    have noDots : ∀ component ∈ inner, Disk.isDots component = false :=
      fun component member => isDots_of_mem_segments valid (innerPrefix.subset member)
    rcases (Disk.follow_eq_ok_iff noDots fromBase.isDirectory).mp inside with ⟨rfl, _⟩
    exact ⟨String.intercalate (String.singleton '/') inner, areSegments.symm ▸ innerPrefix,
      by rw [place, areSegments]⟩

end IsBase

end ServiceBindings.Artifact
