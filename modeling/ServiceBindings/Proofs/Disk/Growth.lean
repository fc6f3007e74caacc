import ServiceBindings.Disk.Resolution

/-!
# Growing disks

A disk grows as long as directories stay directories.  Where a path leads is decided by the
directories on its way, so a path that leads somewhere on a disk leads there on every disk
that it grows into.
-/

namespace ServiceBindings.Disk

theorem Node.find?_put_of_ne (new : Node) {location query : Location} {node : Node}
    {present : Entry} (isPresent : find? query node = some present)
    (different : query ≠ location) (free : find? location node ≠ some .directory) :
    find? query (put new location node) = some present := by
  induction location generalizing node query with
  | nil =>
      rcases List.exists_cons_of_ne_nil different with ⟨name, rest, rfl⟩
      rcases exists_members_of_find? isPresent with ⟨members, member, rfl, _, _⟩
      exact absurd rfl free
  | cons name rest ih =>
      cases node with
      | file octets => exact isPresent
      | directory members =>
          cases query with
          | nil => exact isPresent
          | cons first later =>
              rw [find?_cons_directory] at isPresent free
              rw [put, find?_cons_directory, Dictionary.findIn?_insertEntry]
              by_cases isName : first = name
              · subst isName
                rcases Option.bind_eq_some_iff.mp isPresent with ⟨member, found, inMember⟩
                rw [found, Option.bind_some] at free
                have laterDifferent : later ≠ rest := by
                  intro same
                  subst same
                  exact different rfl
                simpa [found] using ih inMember laterDifferent free
              · simpa [isName] using isPresent

theorem find?_put_of_ne {disk : Disk} {location query : Location} (belowRoot : location ≠ [])
    (new : Entry) {present : Entry} (isPresent : disk.find? query = some present)
    (different : query ≠ location) (free : disk.find? location ≠ some .directory) :
    (disk.put location new).find? query = some present := by
  simp only [find?, root, put]
  rw [directory_members_put _ belowRoot]
  exact Node.find?_put_of_ne _ isPresent different free

/-- Whether a disk turns into another one with all its directories. -/
structure Grows (before after : Disk) : Prop where
  workingDirectory : after.workingDirectory = before.workingDirectory
  pathLimit : after.pathLimit? = before.pathLimit?
  directories : ∀ location, before.find? location = some .directory →
    after.find? location = some .directory

namespace Grows

theorem refl (disk : Disk) : Grows disk disk := ⟨rfl, rfl, fun _ isDirectory => isDirectory⟩

theorem trans {before middle after : Disk} (first : Grows before middle)
    (second : Grows middle after) : Grows before after := by
  constructor
  · rw [second.workingDirectory, first.workingDirectory]
  · rw [second.pathLimit, first.pathLimit]
  · intro location isDirectory
    exact second.directories location (first.directories location isDirectory)

theorem put {disk : Disk} {location : Location} (belowRoot : location ≠ []) (new : Entry)
    (free : disk.find? location ≠ some .directory) : Grows disk (disk.put location new) := by
  refine ⟨rfl, rfl, ?_⟩
  intro query isDirectory
  apply find?_put_of_ne belowRoot new isDirectory _ free
  intro same
  subst same
  exact free isDirectory

theorem remove {disk : Disk} {location : Location} (belowRoot : location ≠ [])
    (free : disk.find? location ≠ some .directory) : Grows disk (disk.remove location) := by
  refine ⟨rfl, rfl, ?_⟩
  intro query isDirectory
  have different : query ≠ location := by
    intro same
    subst same
    exact free isDirectory
  rw [find?_remove disk belowRoot free, if_neg different]
  exact isDirectory

section Paths

variable {before after : Disk} (grows : Grows before after)

include grows

theorem enter {location next : Location} {name : String}
    (entered : before.enter location name = .ok next) : after.enter location name = .ok next := by
  rw [Disk.enter] at entered ⊢
  split
  · rename_i isDot
    rwa [if_pos isDot] at entered
  · rename_i notDot
    rw [if_neg notDot] at entered
    split
    · rename_i isDots
      rwa [if_pos isDots] at entered
    · rename_i notDots
      rw [if_neg notDots] at entered
      split
      · rename_i tooLong
        rw [if_pos tooLong] at entered
        cases entered
      · rename_i fits
        rw [if_neg fits] at entered
        cases found : before.find? (location ++ [name]) with
        | none =>
            rw [found] at entered
            cases entered
        | some entry =>
            rw [found] at entered
            cases entry with
            | file octets => cases entered
            | directory =>
                rw [grows.directories _ found]
                exact entered

theorem follow {location next : Location} {names : List String}
    (followed : before.follow location names = .ok next) :
    after.follow location names = .ok next := by
  induction names generalizing location with
  | nil => exact followed
  | cons name rest ih =>
      rw [Disk.follow] at followed ⊢
      cases entered : before.enter location name with
      | error fault =>
          rw [entered] at followed
          cases followed
      | ok inside =>
          rw [entered] at followed
          rw [grows.enter entered]
          exact ih followed

theorem target {location : Location} {names : List String} {target : Target}
    (found : before.target location names = .ok target) :
    after.target location names = .ok target := by
  rw [Disk.target] at found ⊢
  cases last? : names.getLast? with
  | none =>
      rw [last?] at found
      exact found
  | some last =>
      rw [last?] at found
      simp only at found ⊢
      cases dots : isDots last with
      | true =>
          rw [dots, if_pos rfl] at found
          rw [if_pos rfl]
          cases followed : before.follow location names with
          | error fault =>
              rw [followed] at found
              cases found
          | ok directory =>
              rw [followed] at found
              rw [grows.follow followed]
              exact found
      | false =>
          rw [dots, if_neg (by simp)] at found
          rw [if_neg (by simp)]
          cases followed : before.follow location names.dropLast with
          | error fault =>
              rw [followed] at found
              cases found
          | ok directory =>
              rw [followed] at found
              rw [grows.follow followed]
              exact found

/-- A path leads where it led before. -/
theorem locate {path : String} {target : Target} (located : before.locate path = .ok target) :
    after.locate path = .ok target := by
  have sameLimit : after.admits path = before.admits path := by
    rw [admits, admits, grows.pathLimit]
  rw [Disk.locate] at located ⊢
  rw [sameLimit, grows.workingDirectory]
  split
  · rename_i hasNull
    rw [if_pos hasNull] at located
    cases located
  · rename_i noNull
    rw [if_neg noNull] at located
    split
    · rename_i isEmpty
      rw [if_pos isEmpty] at located
      cases located
    · rename_i nonempty
      rw [if_neg nonempty] at located
      split
      · rename_i tooLong
        rw [if_pos tooLong] at located
        cases located
      · rename_i admitted
        rw [if_neg admitted] at located
        exact grows.target located

end Paths

end Grows

end ServiceBindings.Disk
