import ServiceBindings.Disk.Operation
import ServiceBindings.Proofs.Disk.Growth
import ServiceBindings.Proofs.Disk.Resolution

/-!
# What operations do

Each operation succeeds under one condition on the places that its paths name, and then it
changes what is at these places and nothing else.  Directories are created by making one after
the other, so that creating them keeps what making one keeps.
-/

namespace ServiceBindings.Disk

variable {disk : Disk}

namespace Grows

variable {before after : Disk} (grows : Grows before after)

include grows

theorem start (absolute : Bool) : after.start absolute = before.start absolute := by
  rw [Disk.start, Disk.start, grows.workingDirectory]

theorem hasStart {absolute : Bool} (starts : before.HasStart absolute) :
    after.HasStart absolute := by
  rw [HasStart, grows.start]
  exact grows.directories _ starts

end Grows

/-! ## Places for files -/

/-- Whether a path names a place in a directory, which may be empty. -/
def Names (disk : Disk) (path : String) (location : Location) : Prop :=
  ∃ directory name, disk.locate path = .ok ⟨directory, some name⟩ ∧ directory ++ [name] = location

namespace Names

variable {path : String} {location : Location}

theorem unique {other : Location} (names : disk.Names path location)
    (alsoNames : disk.Names path other) : location = other := by
  rcases names with ⟨directory, name, located, rfl⟩
  rcases alsoNames with ⟨_, _, otherLocated, rfl⟩
  rw [located] at otherLocated
  cases otherLocated
  rfl

theorem ne_nil (names : disk.Names path location) : location ≠ [] := by
  rcases names with ⟨directory, name, _, rfl⟩
  simp

theorem find?_dropLast (names : disk.Names path location)
    (hasStart : disk.HasStart (isAbsolute path)) :
    disk.find? location.dropLast = some .directory := by
  rcases names with ⟨directory, name, located, rfl⟩
  rcases (locate_eq_some_iff.mp located).2 with ⟨front, _, _, _, followed⟩
  rw [List.dropLast_concat]
  exact find?_of_follow hasStart followed

theorem grows_put (names : disk.Names path location)
    (free : disk.find? location ≠ some .directory) (new : Entry) :
    Grows disk (disk.put location new) :=
  .put names.ne_nil new free

theorem find?_put (names : disk.Names path location)
    (hasStart : disk.HasStart (isAbsolute path))
    (free : disk.find? location ≠ some .directory) (new : Entry) (query : Location) :
    (disk.put location new).find? query =
      if query = location then some new else disk.find? query :=
  Disk.find?_put disk names.ne_nil new (names.find?_dropLast hasStart) free query

/-- A path that names a place with a directory leads there name by name. -/
theorem follow_steps (names : disk.Names path location)
    (isDirectory : disk.find? location = some .directory) :
    disk.follow (disk.start (isAbsolute path)) (steps path) = .ok location := by
  rcases names with ⟨directory, name, located, rfl⟩
  exact follow_of_locate located isDirectory

/-- Putting an entry in a place changes nothing elsewhere. -/
theorem eq_of_find?_put_ne (names : disk.Names path location)
    (hasStart : disk.HasStart (isAbsolute path)) (free : disk.find? location ≠ some .directory)
    {new : Entry} {query : Location}
    (differs : (disk.put location new).find? query ≠ disk.find? query) : query = location := by
  by_contra elsewhere
  rw [names.find?_put hasStart free, if_neg elsewhere] at differs
  exact differs rfl

end Names

theorem Grows.names {before after : Disk} (grows : Grows before after) {path : String}
    {location : Location} (names : before.Names path location) : after.Names path location := by
  rcases names with ⟨directory, name, located, rfl⟩
  exact ⟨directory, name, grows.locate located, rfl⟩

/-! ## When operations succeed -/

theorem makeDirectory_eq_ok_iff {path : String} {made : Disk} :
    disk.makeDirectory path = .ok made ↔
      ∃ location, disk.Names path location ∧ disk.find? location = none ∧
        made = disk.put location .directory := by
  constructor
  · intro isMade
    rw [makeDirectory] at isMade
    split at isMade
    · cases isMade
    · cases isMade
    · rename_i directory name located
      split at isMade
      · cases isMade
      · rename_i absent
        cases isMade
        exact ⟨_, ⟨directory, name, located, rfl⟩, absent, rfl⟩
  · intro given
    rcases given with ⟨_, ⟨directory, name, located, rfl⟩, absent, rfl⟩
    simp only [makeDirectory, located, absent]

theorem write_eq_ok_iff {path : String} {octets : List UInt8} {written : Disk} :
    disk.write path octets = .ok written ↔
      ∃ location, disk.Names path location ∧ endsInSlash path = false ∧
        disk.find? location ≠ some .directory ∧ written = disk.put location (.file octets) := by
  constructor
  · intro isWritten
    rw [write] at isWritten
    split at isWritten
    · cases isWritten
    · cases isWritten
    · rename_i directory name located
      split at isWritten
      · cases isWritten
      · rename_i noSlash
        split at isWritten
        · cases isWritten
        · rename_i free
          cases isWritten
          exact ⟨_, ⟨directory, name, located, rfl⟩, by simpa using noSlash, free, rfl⟩
  · intro given
    rcases given with ⟨_, ⟨directory, name, located, rfl⟩, noSlash, free, rfl⟩
    simp only [write, located, noSlash, Bool.false_eq_true, if_false]

theorem write_of_names {path : String} {location : Location} (names : disk.Names path location)
    (noSlash : endsInSlash path = false) (free : disk.find? location ≠ some .directory)
    (octets : List UInt8) :
    disk.write path octets = .ok (disk.put location (.file octets)) :=
  write_eq_ok_iff.mpr ⟨location, names, noSlash, free, rfl⟩

theorem rename_eq_ok_iff {source destination : String} {moved : Disk} :
    disk.rename source destination = .ok moved ↔
      ∃ origin place octets, disk.Names source origin ∧ disk.Names destination place ∧
        disk.find? origin = some (.file octets) ∧ disk.find? place ≠ some .directory ∧
          moved = (disk.remove origin).put place (.file octets) := by
  constructor
  · intro isMoved
    rw [rename] at isMoved
    split at isMoved
    · cases isMoved
    · cases isMoved
    · rename_i origin place originLocated placeLocated
      rcases origin with ⟨originDirectory, originName?⟩
      rcases place with ⟨placeDirectory, placeName?⟩
      split at isMoved
      · cases isMoved
      · rename_i named
        cases originName? with
        | none => simp at named
        | some originName =>
            cases placeName? with
            | none => simp at named
            | some placeName =>
                split at isMoved
                · cases isMoved
                · cases isMoved
                · cases isMoved
                · rename_i octets stored free
                  cases isMoved
                  exact ⟨_, _, octets, ⟨_, _, originLocated, rfl⟩, ⟨_, _, placeLocated, rfl⟩,
                    stored, free, rfl⟩
  · intro given
    rcases given with ⟨_, _, octets, ⟨_, _, originLocated, rfl⟩, ⟨_, _, placeLocated, rfl⟩,
      stored, free, rfl⟩
    simp only [rename, originLocated, placeLocated, Target.location, Option.isNone_some,
      Bool.or_self, Bool.false_eq_true, if_false, Option.toList_some, stored]

/-- After a move the file is at its new place and nothing is at the old one, unless that is the
same place. -/
theorem find?_rename {source destination : String}
    (hasStart : disk.HasStart (isAbsolute destination)) {origin place : Location}
    {octets : List UInt8} (namesOrigin : disk.Names source origin)
    (namesPlace : disk.Names destination place) (stored : disk.find? origin = some (.file octets))
    (free : disk.find? place ≠ some .directory) (query : Location) :
    ((disk.remove origin).put place (.file octets)).find? query =
      if query = place then some (.file octets)
      else if query = origin then none else disk.find? query := by
  have originFree : disk.find? origin ≠ some .directory := by simp [stored]
  have removed := find?_remove disk namesOrigin.ne_nil originFree
  have grows : Grows disk (disk.remove origin) := .remove namesOrigin.ne_nil originFree
  have placeFree : (disk.remove origin).find? place ≠ some .directory := by
    rw [removed]
    split
    · simp
    · exact free
  rw [(grows.names namesPlace).find?_put (grows.hasStart hasStart) placeFree, removed]

/-! ## Directories that are there -/

theorem isDirectory_iff {path : String} :
    disk.isDirectory path = true ↔
      ∃ target, disk.locate path = .ok target ∧
        disk.find? target.location = some .directory := by
  rw [isDirectory, lookUp]
  constructor
  · intro found
    cases located : disk.locate path with
    | error fault =>
        rw [located] at found
        cases found
    | ok target =>
        rw [located] at found
        refine ⟨target, rfl, ?_⟩
        cases stored : disk.find? target.location with
        | none =>
            simp only [stored] at found
            cases found
        | some entry =>
            cases entry with
            | directory => rfl
            | file octets =>
                simp only [stored] at found
                split at found
                · rename_i isEntry
                  split at isEntry <;> cases isEntry
                · cases found
  · intro given
    rcases given with ⟨target, located, isDirectory⟩
    rw [located]
    simp only [isDirectory]

theorem Grows.isDirectory {before after : Disk} (grows : Grows before after) {path : String}
    (isDirectory : before.isDirectory path = true) : after.isDirectory path = true := by
  rcases isDirectory_iff.mp isDirectory with ⟨target, located, stored⟩
  exact isDirectory_iff.mpr ⟨target, grows.locate located, grows.directories _ stored⟩

/-- A directory cannot be made where there is one. -/
theorem makeDirectory_of_isDirectory {path : String} (isDirectory : disk.isDirectory path = true) :
    disk.makeDirectory path = .error .alreadyExists := by
  rcases isDirectory_iff.mp isDirectory with ⟨⟨directory, name?⟩, located, stored⟩
  cases name? with
  | none => simp only [makeDirectory, located]
  | some name =>
      rw [Target.location, Option.toList_some] at stored
      simp only [makeDirectory, located, stored]

theorem isDirectory_of_makeDirectory {path : String}
    (hasStart : disk.HasStart (isAbsolute path)) {made : Disk}
    (isMade : disk.makeDirectory path = .ok made) : made.isDirectory path = true := by
  rcases makeDirectory_eq_ok_iff.mp isMade with ⟨location, names, absent, rfl⟩
  have free : disk.find? location ≠ some .directory := by simp [absent]
  have grows := names.grows_put free .directory
  rcases grows.names names with ⟨directory, name, located, isPlace⟩
  refine isDirectory_iff.mpr ⟨_, located, ?_⟩
  rw [Target.location, Option.toList_some, isPlace, names.find?_put hasStart free]
  exact if_pos rfl

/-! ## Creating directories step by step -/

theorem isPrefix_reverse_cons (name : String) (above : List String) :
    above.reverse <+: (name :: above).reverse := by
  rw [List.reverse_cons]
  exact List.prefix_append _ _

/-- The names above the last one, with the names `.` at the end left out, are leading names. -/
theorem tail_dropWhile_reverse_suffix (names : List String) :
    (names.reverse.dropWhile (· == ".")).tail <:+ names.reverse :=
  (List.tail_suffix _).trans (List.dropWhile_suffix _)

section Steps

variable (relation : Disk → Disk → Prop) (refl : ∀ disk, relation disk disk)

include refl

theorem ensureDirectory_induct {path : String}
    (step : ∀ {made}, disk.makeDirectory path = .ok made → relation disk made) :
    relation disk (disk.ensureDirectory path).1 := by
  rw [ensureDirectory]
  split
  · rename_i made isMade
    exact step isMade
  · exact refl disk

variable (trans : ∀ {before middle after}, relation before middle → relation middle after →
  relation before after)

include trans

/-- What holds whenever a directory of leading names is made holds of the making of all of
them, whether or not it succeeds. -/
theorem ensureAbove_induct {absolute : Bool} {names : List String}
    (step : ∀ {before made front}, front <+: names.reverse →
      before.makeDirectory (pathOf absolute front) = .ok made → relation before made)
    (disk : Disk) : relation disk (disk.ensureAbove absolute names).1 := by
  induction names with
  | nil => exact refl disk
  | cons name above ih =>
      have inAbove := ih fun isFront => step (isFront.trans (isPrefix_reverse_cons name above))
      rw [ensureAbove]
      split
      · exact inAbove
      · simp only
        split
        · rename_i made isMade
          exact step List.prefix_rfl isMade
        · split
          · rename_i made ensured
            rw [ensured] at inAbove
            exact trans inAbove (ensureDirectory_induct relation refl (step List.prefix_rfl))
          · exact inAbove
        · exact refl disk

/-- What holds whenever a directory is made holds of the creation of all directories of a path,
whether or not it succeeds. -/
theorem createDirectories_induct {path : String}
    (stepAbove : ∀ {before made front}, front <+: steps path →
      before.makeDirectory (pathOf (isAbsolute path) front) = .ok made → relation before made)
    (step : ∀ {before made}, before.makeDirectory path = .ok made → relation before made)
    (disk : Disk) : relation disk (disk.createDirectories path).1 := by
  rw [createDirectories]
  split
  · exact refl disk
  · split
    · rename_i made isMade
      exact step isMade
    · have isPrefix : ((steps path).reverse.dropWhile (· == ".")).tail.reverse <+: steps path := by
        simpa using List.reverse_prefix.mpr (tail_dropWhile_reverse_suffix (steps path))
      have above := ensureAbove_induct relation refl trans
        (fun isFront => stepAbove (isFront.trans isPrefix)) disk
      split
      · rename_i made ensured
        rw [ensured] at above
        exact trans above (ensureDirectory_induct relation refl step)
      · exact above
    · exact refl disk

end Steps

end ServiceBindings.Disk
