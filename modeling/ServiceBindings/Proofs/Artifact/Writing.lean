import ServiceBindings.Proofs.Artifact.Place
import ServiceBindings.Proofs.Disk.Actions

/-!
# Writing the files of a tree

A file is put in its place by writing it beside that place and moving it there.  The temporary
path of one artifact may be the path of another one, which is lost by that; but it comes later
in the order of the tree, so that it is written once more.
-/

namespace ServiceBindings.Artifact

open Disk (Action Grows Location Performs joinPath)

variable {base path content : String} {root : Location} {before after : Disk}

/-! ## One file -/

/-- Whether a file can be written beside a place below a base and moved there. -/
structure Writable (disk : Disk) (base : String) (root : Location) (path : String) : Prop where
  names : disk.Names (joinPath base path) (place root path)
  namesTemporary :
    disk.Names (joinPath base (temporaryPath path)) (place root (temporaryPath path))
  free : disk.find? (place root path) ≠ some .directory
  freeTemporary : disk.find? (place root (temporaryPath path)) ≠ some .directory

theorem performs_fileActions_iff (valid : isPath path = true) :
    Performs (fileActions (joinPath base path) content) before after ↔
      ∃ middle,
        before.write (joinPath base (temporaryPath path)) (Text.Utf8.encode content) =
          .ok middle ∧
        middle.rename (joinPath base (temporaryPath path)) (joinPath base path) = .ok after := by
  rw [fileActions, temporaryPath_joinPath base valid, Disk.performs_cons_iff]
  simp only [Disk.performs_cons_iff, Disk.performs_nil_iff, Action.perform,
    Disk.outcome_eq_none_iff, exists_eq_right']

theorem place_temporaryPath_ne (root : Location) (path : String) :
    place root (temporaryPath path) ≠ place root path := by
  intro same
  exact String.lt_irrefl _ (place_inj.mp same ▸ lt_temporaryPath path)

/-- A file is in its place once it was written and moved; what was at its temporary path is gone,
and all else is as before. -/
theorem find?_of_performs (isBase : IsBase before base root)
    (valid : isPath path = true)
    (performed : Performs (fileActions (joinPath base path) content) before after)
    (query : Location) :
    after.find? query =
      if query = place root path then some (.file (Text.Utf8.encode content))
      else if query = place root (temporaryPath path) then none else before.find? query := by
  rcases (performs_fileActions_iff valid).mp performed with ⟨middle, isWritten, isMoved⟩
  rcases Disk.write_eq_ok_iff.mp isWritten with ⟨_, namesTemporary, _, freeTemporary, rfl⟩
  cases isBase.eq_place_of_names (isPath_temporaryPath valid) namesTemporary
  have stored := namesTemporary.find?_put
    (isBase.hasStart_joinPath (isPath_temporaryPath valid)) freeTemporary
    (.file (Text.Utf8.encode content))
  have grows := namesTemporary.grows_put freeTemporary (.file (Text.Utf8.encode content))
  rcases Disk.rename_eq_ok_iff.mp isMoved with
    ⟨_, _, octets, namesOrigin, namesPlace, isStored, free, rfl⟩
  cases (grows.names namesTemporary).unique namesOrigin
  cases (isBase.of_grows grows).eq_place_of_names valid namesPlace
  rw [stored, if_pos rfl] at isStored
  cases isStored
  rw [Disk.find?_rename (grows.hasStart (isBase.hasStart_joinPath valid)) namesOrigin namesPlace
    (by rw [stored, if_pos rfl]) free, stored]
  split
  · rfl
  · split <;> rfl

/-- A file that was written and moved can be written and moved again. -/
theorem writable_of_performs (isBase : IsBase before base root)
    (valid : isPath path = true)
    (performed : Performs (fileActions (joinPath base path) content) before after) :
    Writable after base root path := by
  have stored := find?_of_performs isBase valid performed
  have fromBase := isBase.of_grows performed.grows
  rcases (performs_fileActions_iff valid).mp performed with ⟨middle, isWritten, isMoved⟩
  have moved := (Disk.confined_rename isMoved).grows
  rcases Disk.rename_eq_ok_iff.mp isMoved with ⟨_, _, _, namesOrigin, namesPlace, _, _, _⟩
  have names := moved.names namesPlace
  have namesTemporary := moved.names namesOrigin
  cases fromBase.eq_place_of_names valid names
  cases fromBase.eq_place_of_names (isPath_temporaryPath valid) namesTemporary
  refine ⟨names, namesTemporary, ?_, ?_⟩
  · rw [stored, if_pos rfl]
    simp
  · rw [stored, if_neg (place_temporaryPath_ne root path), if_pos rfl]
    simp

theorem Writable.exists_performs (writable : Writable before base root path)
    (isBase : IsBase before base root) (valid : isPath path = true) (content : String) :
    ∃ after, Performs (fileActions (joinPath base path) content) before after := by
  have namesTemporary := writable.namesTemporary
  have grows := namesTemporary.grows_put writable.freeTemporary
    (.file (Text.Utf8.encode content))
  have stored := namesTemporary.find?_put
    (isBase.hasStart_joinPath (isPath_temporaryPath valid)) writable.freeTemporary
    (.file (Text.Utf8.encode content))
  have isWritten := Disk.write_of_names namesTemporary
    (endsInSlash_joinPath base (isPath_temporaryPath valid)) writable.freeTemporary
    (Text.Utf8.encode content)
  have free : (before.put (place root (temporaryPath path))
      (.file (Text.Utf8.encode content))).find? (place root path) ≠ some .directory := by
    rw [stored, if_neg (place_temporaryPath_ne root path).symm]
    exact writable.free
  have isMoved := Disk.rename_eq_ok_iff.mpr ⟨_, _, _, grows.names namesTemporary,
    grows.names writable.names, by rw [stored, if_pos rfl], free, rfl⟩
  exact ⟨_, (performs_fileActions_iff valid).mpr ⟨_, isWritten, isMoved⟩⟩

/-- Putting another file in its place leaves a place writable. -/
theorem Writable.of_performs {other : String} (writable : Writable before base root path)
    (isBase : IsBase before base root)
    (valid : isPath other = true)
    (performed : Performs (fileActions (joinPath base other) content) before after) :
    Writable after base root path := by
  have keepsFree : ∀ location, before.find? location ≠ some .directory →
      after.find? location ≠ some .directory := by
    intro location free
    rw [find?_of_performs isBase valid performed]
    split
    · simp
    · split
      · simp
      · exact free
  exact ⟨performed.grows.names writable.names, performed.grows.names writable.namesTemporary,
    keepsFree _ writable.free, keepsFree _ writable.freeTemporary⟩

/-! ## All files -/

/-- The actions that put files in their places below a base directory. -/
def filesActions (base : String) (entries : List (String × String)) : List Action :=
  entries.flatMap fun entry => fileActions (joinPath base entry.1) entry.2

theorem performs_filesActions_cons_iff {entry : String × String}
    {rest : List (String × String)} :
    Performs (filesActions base (entry :: rest)) before after ↔
      ∃ middle, Performs (fileActions (joinPath base entry.1) entry.2) before middle ∧
        Performs (filesActions base rest) middle after := by
  rw [filesActions, List.flatMap_cons, Disk.performs_append_iff, ← filesActions]

/-- Whether a disk turns into another one in which files are in their places below a root,
nothing is left at the temporary paths beside them, and all else is as before. -/
structure Written (entries : List (String × String)) (root : Location) (before after : Disk) :
    Prop where
  stored : ∀ entry ∈ entries,
    after.find? (place root entry.1) = some (.file (Text.Utf8.encode entry.2))
  cleared : ∀ entry ∈ entries, (∀ other ∈ entries, other.1 ≠ temporaryPath entry.1) →
    after.find? (place root (temporaryPath entry.1)) = none
  unchanged : ∀ location, (∀ entry ∈ entries, location ≠ place root entry.1 ∧
    location ≠ place root (temporaryPath entry.1)) → after.find? location = before.find? location

namespace Written

/-- Writing the same files to the same places once more changes nothing. -/
theorem again {entries : List (String × String)} {first second : Disk}
    (once : Written entries root before first) (twice : Written entries root first second)
    (location : Location) : second.find? location = first.find? location := by
  by_cases isArtifact : ∃ entry ∈ entries, location = place root entry.1
  · rcases isArtifact with ⟨entry, member, rfl⟩
    rw [once.stored entry member, twice.stored entry member]
  · by_cases isTemporary : ∃ entry ∈ entries, location = place root (temporaryPath entry.1)
    · rcases isTemporary with ⟨entry, member, rfl⟩
      have noArtifact : ∀ other ∈ entries, other.1 ≠ temporaryPath entry.1 := by
        intro other otherMember same
        exact isArtifact ⟨other, otherMember, by rw [same]⟩
      rw [once.cleared entry member noArtifact, twice.cleared entry member noArtifact]
    · apply twice.unchanged
      intro entry member
      exact ⟨fun same => isArtifact ⟨entry, member, same⟩,
        fun same => isTemporary ⟨entry, member, same⟩⟩

theorem cons {entry : String × String} {rest : List (String × String)} {middle : Disk}
    (ascending : ∀ later ∈ rest, entry.1 < later.1)
    (first : ∀ query, middle.find? query =
      if query = place root entry.1 then some (.file (Text.Utf8.encode entry.2))
      else if query = place root (temporaryPath entry.1) then none else before.find? query)
    (others : Written rest root middle after) : Written (entry :: rest) root before after := by
  constructor
  · intro other member
    rcases List.mem_cons.mp member with rfl | inRest
    · -- No later file is written to this place, nor is its temporary path this one.
      rw [others.unchanged, first, if_pos rfl]
      intro later laterMember
      have isLess := ascending later laterMember
      constructor
      · intro same
        exact String.lt_irrefl _ (place_inj.mp same ▸ isLess)
      · intro same
        have beyond := String.lt_trans isLess (lt_temporaryPath later.1)
        exact String.lt_irrefl _ (place_inj.mp same ▸ beyond)
    · exact others.stored other inRest
  · intro other member noArtifact
    have restNoArtifact : ∀ later ∈ rest, later.1 ≠ temporaryPath other.1 :=
      fun later laterMember => noArtifact later (List.mem_cons_of_mem _ laterMember)
    rcases List.mem_cons.mp member with rfl | inRest
    · rw [others.unchanged, first, if_neg (place_temporaryPath_ne root _), if_pos rfl]
      intro later laterMember
      constructor
      · intro same
        exact restNoArtifact later laterMember (place_inj.mp same).symm
      · intro same
        have sameName := temporaryPath_inj.mp (place_inj.mp same)
        exact String.lt_irrefl _ (sameName ▸ ascending later laterMember)
    · exact others.cleared other inRest restNoArtifact
  · intro location elsewhere
    rw [others.unchanged location fun later member =>
      elsewhere later (List.mem_cons_of_mem _ member), first]
    have away := elsewhere entry (List.mem_cons_self ..)
    rw [if_neg away.1, if_neg away.2]

end Written

variable {entries : List (String × String)}

/-- What is left when all files were put in their places in ascending order of their paths. -/
theorem written_of_performs
    (ascending : entries.Pairwise (fun earlier later => earlier.1 < later.1))
    (valid : ∀ entry ∈ entries, isPath entry.1 = true) (isBase : IsBase before base root)
    (performed : Performs (filesActions base entries) before after) :
    Written entries root before after := by
  induction entries generalizing before with
  | nil =>
      cases Disk.performs_nil_iff.mp performed
      exact ⟨by simp, by simp, fun _ _ => rfl⟩
  | cons entry rest ih =>
      rcases performs_filesActions_cons_iff.mp performed with ⟨middle, first, others⟩
      rcases List.pairwise_cons.mp ascending with ⟨beforeRest, ascendingRest⟩
      have entryValid := valid entry (List.mem_cons_self ..)
      have restWritten := ih ascendingRest
        (fun other member => valid other (List.mem_cons_of_mem _ member))
        (isBase.of_grows first.grows) others
      exact restWritten.cons beforeRest (find?_of_performs isBase entryValid first)

/-- Where all places are writable, all files can be put in their places. -/
theorem exists_performs_filesActions (valid : ∀ entry ∈ entries, isPath entry.1 = true)
    (isBase : IsBase before base root)
    (writable : ∀ entry ∈ entries, Writable before base root entry.1) :
    ∃ after, Performs (filesActions base entries) before after := by
  induction entries generalizing before with
  | nil => exact ⟨before, Disk.performs_nil_iff.mpr rfl⟩
  | cons entry rest ih =>
      have entryValid := valid entry (List.mem_cons_self ..)
      rcases (writable entry (List.mem_cons_self ..)).exists_performs isBase entryValid
        entry.2 with ⟨middle, first⟩
      have restWritable : ∀ other ∈ rest, Writable middle base root other.1 := by
        intro other member
        exact (writable other (List.mem_cons_of_mem _ member)).of_performs isBase
          entryValid first
      rcases ih (fun other member => valid other (List.mem_cons_of_mem _ member))
        (isBase.of_grows first.grows)
        restWritable with ⟨after, others⟩
      exact ⟨after, performs_filesActions_cons_iff.mpr ⟨middle, first, others⟩⟩

theorem Writable.of_performs_filesActions (writable : Writable before base root path)
    (valid : ∀ entry ∈ entries, isPath entry.1 = true) (isBase : IsBase before base root)
    (performed : Performs (filesActions base entries) before after) :
    Writable after base root path := by
  induction entries generalizing before with
  | nil =>
      cases Disk.performs_nil_iff.mp performed
      exact writable
  | cons entry rest ih =>
      rcases performs_filesActions_cons_iff.mp performed with ⟨middle, first, others⟩
      have stillWritable := writable.of_performs isBase
        (valid entry (List.mem_cons_self ..)) first
      exact ih stillWritable (fun other member => valid other (List.mem_cons_of_mem _ member))
        (isBase.of_grows first.grows) others

/-- After all files were put in their places, all these places are writable. -/
theorem writable_of_performs_filesActions (valid : ∀ entry ∈ entries, isPath entry.1 = true)
    (isBase : IsBase before base root)
    (performed : Performs (filesActions base entries) before after)
    {entry : String × String} (member : entry ∈ entries) :
    Writable after base root entry.1 := by
  induction entries generalizing before with
  | nil => cases member
  | cons head rest ih =>
      rcases performs_filesActions_cons_iff.mp performed with ⟨middle, first, others⟩
      have restValid : ∀ other ∈ rest, isPath other.1 = true :=
        fun other inRest => valid other (List.mem_cons_of_mem _ inRest)
      have middleBase := isBase.of_grows first.grows
      rcases List.mem_cons.mp member with rfl | inRest
      · have writable := writable_of_performs isBase
          (valid entry (List.mem_cons_self ..)) first
        exact writable.of_performs_filesActions restValid middleBase others
      · exact ih restValid middleBase others inRest

end ServiceBindings.Artifact
