import Mathlib.Data.List.Infix
import ServiceBindings.Disk.Resolution
import ServiceBindings.Proofs.Traversal

/-!
# Where paths lead

Everything on the way to what is stored is a directory.  Following names step by step from a
directory leads to a directory, and a name that is not made of dots leads into the directory
where it is followed, so that the place of a path can be read off its names.
-/

namespace ServiceBindings.Disk

/-! ## On the way to what is stored -/

theorem Node.at?_append (front back : Location) (node : Node) :
    at? (front ++ back) node = (at? front node).bind (at? back) := by
  induction front generalizing node with
  | nil => rfl
  | cons name rest ih =>
      cases node with
      | file octets => rfl
      | directory members =>
          rw [List.cons_append, at?, at?, Option.bind_assoc]
          apply Option.bind_congr
          intro member _
          exact ih member

variable {disk : Disk}

theorem find?_front {front back : Location} {entry : Entry}
    (stored : disk.find? (front ++ back) = some entry) (below : back ≠ []) :
    disk.find? front = some .directory := by
  rcases List.exists_cons_of_ne_nil below with ⟨name, rest, rfl⟩
  rw [find?, Node.find?, Node.at?_append, Option.map_bind, Option.bind_eq_some_iff] at stored
  rcases stored with ⟨node, isNode, inNode⟩
  rw [find?, Node.find?, isNode]
  cases node with
  | file octets => cases inNode
  | directory members => rfl

theorem find?_of_isPrefix {front location : Location}
    (isDirectory : disk.find? location = some .directory) (isPrefix : front <+: location) :
    disk.find? front = some .directory := by
  rcases isPrefix with ⟨back, rfl⟩
  by_cases atEnd : back = []
  · rwa [atEnd, List.append_nil] at isDirectory
  · exact find?_front isDirectory atEnd

/-! ## Following names -/

theorem follow_append (location : Location) (front back : List String) :
    disk.follow location (front ++ back) =
      (disk.follow location front >>= fun middle => disk.follow middle back) := by
  induction front generalizing location with
  | nil => rfl
  | cons name rest ih =>
      rw [List.cons_append, follow, follow]
      cases disk.enter location name with
      | error fault => rfl
      | ok next => exact ih next

theorem follow_append_eq_ok_iff {location next : Location} {front back : List String} :
    disk.follow location (front ++ back) = .ok next ↔
      ∃ middle, disk.follow location front = .ok middle ∧ disk.follow middle back = .ok next := by
  rw [follow_append, bind_eq_ok_iff]

theorem enter_eq_ok_iff {location next : Location} {name : String}
    (noDots : isDots name = false) :
    disk.enter location name = .ok next ↔
      next = location ++ [name] ∧ fits name = true ∧ disk.find? next = some .directory := by
  rw [isDots, Bool.or_eq_false_iff, decide_eq_false_iff_not, decide_eq_false_iff_not] at noDots
  rw [enter, if_neg noDots.1, if_neg noDots.2]
  cases isFitting : fits name with
  | false => simp
  | true =>
      simp only [Bool.not_true, Bool.false_eq_true, if_false, true_and]
      constructor
      · intro entered
        split at entered
        · cases entered
        · cases entered
        · rename_i isDirectory
          cases entered
          exact ⟨rfl, isDirectory⟩
      · intro given
        rcases given with ⟨rfl, isDirectory⟩
        rw [isDirectory]

theorem find?_of_enter {location next : Location} {name : String}
    (inDirectory : disk.find? location = some .directory)
    (entered : disk.enter location name = .ok next) : disk.find? next = some .directory := by
  cases noDots : isDots name with
  | false => exact ((enter_eq_ok_iff noDots).mp entered).2.2
  | true =>
      rw [isDots, Bool.or_eq_true, decide_eq_true_eq, decide_eq_true_eq] at noDots
      rw [enter] at entered
      split at entered
      · cases entered
        exact inDirectory
      · rename_i notDot
        rw [if_pos (noDots.resolve_left notDot)] at entered
        cases entered
        exact find?_of_isPrefix inDirectory (List.dropLast_prefix location)

theorem find?_of_follow {location next : Location} {names : List String}
    (inDirectory : disk.find? location = some .directory)
    (followed : disk.follow location names = .ok next) : disk.find? next = some .directory := by
  induction names generalizing location with
  | nil =>
      cases followed
      exact inDirectory
  | cons name rest ih =>
      rw [follow] at followed
      cases entered : disk.enter location name with
      | error fault =>
          rw [entered] at followed
          cases followed
      | ok inside =>
          rw [entered] at followed
          exact ih (find?_of_enter inDirectory entered) followed

/-- Names without `..` lead back from nowhere. -/
theorem isPrefix_of_follow {location next : Location} {names : List String}
    (noReturn : ".." ∉ names) (followed : disk.follow location names = .ok next) :
    location <+: next := by
  induction names generalizing location with
  | nil =>
      cases followed
      exact List.prefix_rfl
  | cons name rest ih =>
      rw [List.mem_cons, not_or] at noReturn
      rw [follow] at followed
      cases entered : disk.enter location name with
      | error fault =>
          rw [entered] at followed
          cases followed
      | ok inside =>
          rw [entered] at followed
          have inRest := ih noReturn.2 followed
          by_cases isDot : name = "."
          · rw [enter, if_pos isDot] at entered
            cases entered
            exact inRest
          · have noDots : isDots name = false := by simp [isDots, isDot, Ne.symm noReturn.1]
            rcases (enter_eq_ok_iff noDots).mp entered with ⟨rfl, _⟩
            exact (List.prefix_append _ _).trans inRest

/-- Names without dots lead where they say, if they are names of directories all the way. -/
theorem follow_eq_ok_iff {location next : Location} {names : List String}
    (noDots : ∀ name ∈ names, isDots name = false)
    (inDirectory : disk.find? location = some .directory) :
    disk.follow location names = .ok next ↔
      next = location ++ names ∧ (∀ name ∈ names, fits name = true) ∧
        disk.find? next = some .directory := by
  induction names generalizing location with
  | nil =>
      rw [follow, Except.ok.injEq, List.append_nil]
      constructor
      · intro same
        subst same
        exact ⟨rfl, by simp, inDirectory⟩
      · intro given
        exact given.1.symm
  | cons name rest ih =>
      have nameNoDots := noDots name (List.mem_cons_self ..)
      have restNoDots : ∀ other ∈ rest, isDots other = false :=
        fun other member => noDots other (List.mem_cons_of_mem _ member)
      rw [follow]
      constructor
      · intro followed
        cases entered : disk.enter location name with
        | error fault =>
            rw [entered] at followed
            cases followed
        | ok inside =>
            rw [entered] at followed
            rcases (enter_eq_ok_iff nameNoDots).mp entered with ⟨rfl, nameFits, insideDirectory⟩
            rcases (ih restNoDots insideDirectory).mp followed with ⟨rfl, restFit, isDirectory⟩
            refine ⟨by simp, ?_, isDirectory⟩
            simpa [nameFits] using restFit
      · intro given
        rcases given with ⟨rfl, allFit, isDirectory⟩
        have regrouped : location ++ name :: rest = location ++ [name] ++ rest := by simp
        have insideDirectory : disk.find? (location ++ [name]) = some .directory :=
          find?_of_isPrefix isDirectory (regrouped ▸ List.prefix_append _ rest)
        have entered : disk.enter location name = .ok (location ++ [name]) :=
          (enter_eq_ok_iff nameNoDots).mpr ⟨rfl, allFit name (by simp), insideDirectory⟩
        rw [entered]
        exact (ih restNoDots insideDirectory).mpr
          ⟨regrouped, fun other member => allFit other (by simp [member]), isDirectory⟩

/-! ## What a path names -/

/-- Where the first name of a path is looked for. -/
def start (disk : Disk) (absolute : Bool) : Location :=
  if absolute then [] else disk.workingDirectory

/-- Whether paths that start at the root, or those that do not, start at a directory.  The latter
do unless the working directory was removed. -/
def HasStart (disk : Disk) (absolute : Bool) : Prop :=
  disk.find? (disk.start absolute) = some .directory

theorem hasStart_true (disk : Disk) : disk.HasStart true := find?_nil disk

/-- Whether a path is one that can be followed at all. -/
structure Accepts (disk : Disk) (path : String) : Prop where
  noNull : '\x00' ∉ path.toList
  nonempty : path ≠ ""
  admitted : disk.admits path = true

theorem locate_of_accepts {path : String} (accepts : disk.Accepts path) :
    disk.locate path = disk.target (disk.start (isAbsolute path)) (steps path) := by
  have nonempty : ¬path.isEmpty = true := by simpa using accepts.nonempty
  have noNull : ¬path.toList.contains '\x00' = true := by simpa using accepts.noNull
  have admitted : ¬(!disk.admits path) = true := by simp [accepts.admitted]
  rw [locate, if_neg noNull, if_neg nonempty, if_neg admitted, start]

theorem accepts_of_locate {path : String} {target : Target}
    (located : disk.locate path = .ok target) : disk.Accepts path := by
  rw [locate] at located
  split at located
  · cases located
  · split at located
    · cases located
    · split at located
      · cases located
      · rename_i noNull nonempty admitted
        exact ⟨by simpa using noNull, by simpa using nonempty, by simpa using admitted⟩

theorem target_concat (location : Location) (front : List String) {name : String}
    (noDots : isDots name = false) :
    disk.target location (front ++ [name]) =
      (disk.follow location front >>= fun directory =>
        if fits name then .ok ⟨directory, some name⟩ else .error .nameTooLong) := by
  rw [target, List.getLast?_concat]
  simp only [noDots, Bool.false_eq_true, if_false, List.dropLast_concat]
  cases disk.follow location front <;> rfl

theorem target_concat_of_isDots (location : Location) (front : List String) {name : String}
    (dots : isDots name = true) :
    disk.target location (front ++ [name]) =
      (disk.follow location (front ++ [name])).map (⟨·, none⟩) := by
  rw [target, List.getLast?_concat]
  simp only [dots, if_true]

theorem follow_of_target_none {location directory : Location} {names : List String}
    (found : disk.target location names = .ok ⟨directory, none⟩) :
    disk.follow location names = .ok directory := by
  rcases List.eq_nil_or_concat' names with rfl | ⟨front, last, rfl⟩
  · cases found
    rfl
  · cases dots : isDots last with
    | false =>
        rw [target_concat location front dots, bind_eq_ok_iff] at found
        rcases found with ⟨inside, _, isTarget⟩
        split at isTarget <;> cases isTarget
    | true =>
        rw [target_concat_of_isDots location front dots, map_eq_ok_iff] at found
        rcases found with ⟨inside, followed, isTarget⟩
        cases isTarget
        exact followed

theorem target_eq_some_iff {location directory : Location} {names : List String}
    {name : String} :
    disk.target location names = .ok ⟨directory, some name⟩ ↔
      ∃ front, names = front ++ [name] ∧ isDots name = false ∧ fits name = true ∧
        disk.follow location front = .ok directory := by
  constructor
  · intro found
    rcases List.eq_nil_or_concat' names with rfl | ⟨front, last, rfl⟩
    · cases found
    · cases dots : isDots last with
      | false =>
          rw [target_concat location front dots, bind_eq_ok_iff] at found
          rcases found with ⟨inside, followed, isTarget⟩
          split at isTarget
          · rename_i isFitting
            cases isTarget
            exact ⟨front, rfl, dots, isFitting, followed⟩
          · cases isTarget
      | true =>
          rw [target_concat_of_isDots location front dots, map_eq_ok_iff] at found
          rcases found with ⟨inside, _, isTarget⟩
          cases isTarget
  · intro given
    rcases given with ⟨front, rfl, noDots, isFitting, followed⟩
    rw [target_concat location front noDots, bind_eq_ok_iff]
    exact ⟨directory, followed, if_pos isFitting⟩

/-- What a path with a last name leads to: that name in the directory to which the names before
it lead. -/
theorem locate_eq_some_iff {path name : String} {directory : Location} :
    disk.locate path = .ok ⟨directory, some name⟩ ↔
      disk.Accepts path ∧ ∃ front, steps path = front ++ [name] ∧ isDots name = false ∧
        fits name = true ∧
          disk.follow (disk.start (isAbsolute path)) front = .ok directory := by
  rw [← target_eq_some_iff]
  constructor
  · intro located
    have accepts := accepts_of_locate located
    exact ⟨accepts, locate_of_accepts accepts ▸ located⟩
  · intro given
    rw [locate_of_accepts given.1]
    exact given.2

/-- A path that leads to a directory leads there name by name. -/
theorem follow_of_locate {path : String} {target : Target}
    (located : disk.locate path = .ok target)
    (isDirectory : disk.find? target.location = some .directory) :
    disk.follow (disk.start (isAbsolute path)) (steps path) = .ok target.location := by
  rcases target with ⟨directory, name?⟩
  cases name? with
  | none =>
      rw [locate_of_accepts (accepts_of_locate located)] at located
      simpa [Target.location] using follow_of_target_none located
  | some name =>
      rcases (locate_eq_some_iff.mp located).2 with ⟨front, isSteps, noDots, isFitting, followed⟩
      have entered : disk.enter directory name = .ok (directory ++ [name]) :=
        (enter_eq_ok_iff noDots).mpr ⟨rfl, isFitting, isDirectory⟩
      rw [isSteps, follow_append_eq_ok_iff]
      refine ⟨directory, followed, ?_⟩
      rw [follow, entered]
      rfl

end ServiceBindings.Disk
