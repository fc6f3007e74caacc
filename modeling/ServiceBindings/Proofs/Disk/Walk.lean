import ServiceBindings.Disk.Tree
import ServiceBindings.Proofs.Dictionary
import ServiceBindings.Proofs.Disk.Resolution
import ServiceBindings.Proofs.Text.Utf8

/-!
# What a walk comes upon

A tree is listed with a directory before what is in it, and the members of a directory by the octets
of their names.  A walk comes upon the regular files of that list, each with the path that its names
make with the path where the walk starts.
-/

namespace ServiceBindings.Disk

/-! ## The order of a walk -/

/-- Whether a walk comes upon one location before another one. -/
inductive Precedes : Location → Location → Prop where
  | above (name : String) (rest : Location) : Precedes [] (name :: rest)
  | beside {first second : String} (less : Text.Utf8.encode first < Text.Utf8.encode second)
      (rest others : Location) : Precedes (first :: rest) (second :: others)
  | within (name : String) {earlier later : Location} (inside : Precedes earlier later) :
      Precedes (name :: earlier) (name :: later)

theorem Precedes.asymm {first second : Location} (precedes : Precedes first second) :
    ¬Precedes second first := by
  induction precedes with
  | above name rest =>
      intro reversed
      cases reversed
  | beside less rest others =>
      intro reversed
      cases reversed with
      | beside greater => exact List.lt_asymm less greater
      | within name inside => exact List.lt_irrefl _ less
  | within name inside ih =>
      intro reversed
      cases reversed with
      | beside less => exact List.lt_irrefl _ less
      | within _ reversedInside => exact ih reversedInside

namespace Node

/-! ## The members of a directory -/

/-- The members that count, by their names. -/
def membersByName (members : List (String × Node)) : Dictionary Node :=
  members.foldr (fun member others => others.insert member.1 member.2) .empty

theorem find?_membersByName (members : List (String × Node)) (name : String) :
    (membersByName members).find? name = Dictionary.findIn? name members := by
  induction members with
  | nil => rfl
  | cons member rest ih =>
      rw [membersByName, List.foldr_cons, Dictionary.find?_insert, Dictionary.findIn?]
      split
      · rfl
      · exact ih

theorem mem_membersByName_iff {members : List (String × Node)} {name : String} {node : Node} :
    (name, node) ∈ (membersByName members).entries ↔
      Dictionary.findIn? name members = some node := by
  rw [← Dictionary.find?_eq_some_iff_mem, find?_membersByName]

/-- What is gathered from members one by one, each under its name, is gathered from the members
that count. -/
theorem values_eq_map_membersByName {α : Type} {gather : List (String × Node) → Dictionary α}
    {value : String → Node → α} (nil : gather [] = .empty)
    (cons : ∀ name node rest,
      gather ((name, node) :: rest) = (gather rest).insert name (value name node))
    (members : List (String × Node)) :
    (gather members).values =
      (membersByName members).entries.map fun member => value member.1 member.2 := by
  have isImage : ∀ key, (gather members).find? key =
      ((membersByName members).find? key).map (value key) := by
    intro key
    rw [find?_membersByName]
    induction members with
    | nil =>
        rw [nil]
        rfl
    | cons member rest ih =>
        rw [cons, Dictionary.find?_insert, Dictionary.findIn?]
        split
        · rename_i isName
          rw [isName, Option.map_some]
        · exact ih
  rw [Dictionary.values, Dictionary.entries_eq_map isImage, List.map_map]
  rfl

/-- A node and everything below it, by the names that lead there. -/
def atOrBelow (node : Node) : List (Location × Entry) :=
  ([], node.entry) :: node.contents

theorem atOrBelow_file (octets : List UInt8) : atOrBelow (file octets) = [([], .file octets)] := rfl

theorem atOrBelow_directory (members : List (String × Node)) :
    atOrBelow (directory members) =
      ([], .directory) :: (membersByName members).entries.flatMap fun member =>
        member.2.atOrBelow.map fun below => (member.1 :: below.1, below.2) := by
  rw [atOrBelow, contents, values_eq_map_membersByName rfl (fun _ _ _ => rfl), List.flatMap]
  rfl

theorem visits_directory {admits : String → Bool} {path : String} (admitted : admits path = true)
    (members : List (String × Node)) :
    visits admits path (directory members) = (membersByName members).entries.flatMap fun member =>
      visits admits (joinPath path member.1) member.2 := by
  rw [visits, if_pos admitted, values_eq_map_membersByName rfl (fun _ _ _ => rfl), List.flatMap]

mutual

/-- What holds of all files, and of a directory if it holds of the members that count, holds of all
nodes. -/
@[elab_as_elim]
theorem byMembers {motive : Node → Prop} (file : ∀ octets, motive (.file octets))
    (directory : ∀ members, (∀ member ∈ (membersByName members).entries, motive member.2) →
      motive (.directory members)) : ∀ node, motive node
  | .file octets => file octets
  | .directory members => directory members fun member isMember =>
      listByMembers file directory members member
        (Dictionary.mem_of_findIn?_eq_some (mem_membersByName_iff.mp isMember))
termination_by structural node => node

theorem listByMembers {motive : Node → Prop} (file : ∀ octets, motive (.file octets))
    (directory : ∀ members, (∀ member ∈ (membersByName members).entries, motive member.2) →
      motive (.directory members)) :
    ∀ members : List (String × Node), ∀ member ∈ members, motive member.2
  | [], _, isMember => nomatch isMember
  | (_, node) :: rest, member, isMember =>
    (List.mem_cons.mp isMember).elim
      (fun isFirst => isFirst ▸ byMembers file directory node)
      (fun inRest => listByMembers file directory rest member inRest)
termination_by structural members => members

end

/-! ## A node and everything below it -/

theorem find?_cons_directory_eq_some_iff {members : List (String × Node)} {name : String}
    {rest : Location} {entry : Entry} :
    find? (name :: rest) (directory members) = some entry ↔
      ∃ node, (name, node) ∈ (membersByName members).entries ∧ find? rest node = some entry := by
  rw [find?_cons_directory, Option.bind_eq_some_iff]
  simp only [mem_membersByName_iff]

theorem mem_atOrBelow_iff {node : Node} {location : Location} {entry : Entry} :
    (location, entry) ∈ node.atOrBelow ↔ find? location node = some entry := by
  induction node using byMembers generalizing location with
  | file octets => cases location <;> simp [atOrBelow_file, Node.entry, eq_comm]
  | directory members ih =>
      rw [atOrBelow_directory, List.mem_cons, List.mem_flatMap]
      cases location with
      | nil => simp [Node.entry, eq_comm]
      | cons name rest =>
          rw [find?_cons_directory_eq_some_iff]
          constructor
          · intro listed
            obtain ⟨member, isMember, inMember⟩ := listed.resolve_left (by simp)
            obtain ⟨⟨others, found⟩, isListed, isLocation⟩ := List.mem_map.mp inMember
            cases isLocation
            exact ⟨member.2, isMember, (ih member isMember).mp isListed⟩
          · intro stored
            obtain ⟨node, isMember, inMember⟩ := stored
            exact .inr ⟨(name, node), isMember,
              List.mem_map.mpr ⟨(rest, entry), (ih _ isMember).mpr inMember, rfl⟩⟩

theorem pairwise_atOrBelow (node : Node) :
    node.atOrBelow.Pairwise fun earlier later => Precedes earlier.1 later.1 := by
  induction node using byMembers with
  | file octets => exact List.pairwise_singleton _ _
  | directory members ih =>
      rw [atOrBelow_directory, List.pairwise_cons, List.pairwise_flatMap]
      refine ⟨?_, ?_, ?_⟩
      · intro below isBelow
        obtain ⟨member, _, inMember⟩ := List.mem_flatMap.mp isBelow
        obtain ⟨found, _, rfl⟩ := List.mem_map.mp inMember
        exact .above member.1 found.1
      · intro member isMember
        rw [List.pairwise_map]
        exact (ih member isMember).imp (.within member.1)
      · apply (membersByName members).ascending.imp
        intro earlier later less first inFirst second inSecond
        obtain ⟨found, _, rfl⟩ := List.mem_map.mp inFirst
        obtain ⟨other, _, rfl⟩ := List.mem_map.mp inSecond
        exact .beside ((Text.Utf8.encode_lt_encode_iff _ _).mpr less) found.1 other.1

/-! ## Regular files -/

/-- The files at or below a node with their octets, by the names that lead there. -/
def files (node : Node) : List (Location × List UInt8) :=
  node.atOrBelow.filterMap fun found =>
    match found.2 with
    | .file octets => some (found.1, octets)
    | .directory => none

theorem files_directory (members : List (String × Node)) :
    files (directory members) = (membersByName members).entries.flatMap fun member =>
      member.2.files.map fun below => (member.1 :: below.1, below.2) := by
  rw [files, atOrBelow_directory, List.filterMap_cons, List.filterMap_flatMap]
  apply List.flatMap_congr
  intro member _
  rw [List.filterMap_map, files, List.map_filterMap]
  apply List.filterMap_congr
  intro found _
  obtain ⟨location, entry⟩ := found
  cases entry <;> rfl

theorem mem_files_iff {node : Node} {location : Location} {octets : List UInt8} :
    (location, octets) ∈ node.files ↔ find? location node = some (.file octets) := by
  rw [← mem_atOrBelow_iff, files, List.mem_filterMap]
  constructor
  · intro listed
    obtain ⟨⟨location, entry⟩, isListed, isFile⟩ := listed
    cases entry with
    | directory => cases isFile
    | file content =>
        cases isFile
        exact isListed
  · intro listed
    exact ⟨_, listed, rfl⟩

theorem pairwise_files (node : Node) :
    node.files.Pairwise fun earlier later => Precedes earlier.1 later.1 := by
  apply node.pairwise_atOrBelow.filterMap
  intro first second precedes file isFirst other isSecond
  obtain ⟨location, entry⟩ := first
  obtain ⟨otherLocation, otherEntry⟩ := second
  cases entry <;> cases otherEntry <;> cases isFirst <;> cases isSecond
  exact precedes

/-- If everything at or below a path is admitted, a walk comes upon the files that are there. -/
theorem visits_eq_map_files {admits : String → Bool} {path : String} {node : Node}
    (admitted : ∀ location entry, find? location node = some entry →
      admits (location.foldl joinPath path) = true) :
    visits admits path node = node.files.map fun file =>
      .ok ⟨file.1.foldl joinPath path, .ok file.2⟩ := by
  induction node using byMembers generalizing path with
  | file octets =>
      have pathAdmitted : admits path = true := admitted [] (.file octets) rfl
      rw [visits, if_pos pathAdmitted]
      rfl
  | directory members ih =>
      have pathAdmitted : admits path = true := admitted [] .directory rfl
      rw [visits_directory pathAdmitted, files_directory, List.map_flatMap]
      apply List.flatMap_congr
      intro member isMember
      rw [List.map_map, ih member isMember]
      · rfl
      · intro location entry stored
        exact admitted (member.1 :: location) entry
          (find?_cons_directory_eq_some_iff.mpr ⟨member.2, isMember, stored⟩)

end Node

/-! ## Walks -/

/-- Whether everything at or below a location can be entered or read by the path that its names make
with a path.  Only what is too deep for the limit of the disk cannot. -/
def AdmitsBelow (disk : Disk) (path : String) (location : Location) : Prop :=
  ∀ below entry, disk.find? (location ++ below) = some entry →
    disk.admits (below.foldl joinPath path) = true

/-- Whether a list holds the files at or below a location in the order of a walk, by the names that
lead to them from there. -/
structure AreFilesBelow (disk : Disk) (location : Location)
    (files : List (Location × List UInt8)) : Prop where
  mem_iff : ∀ below octets,
    (below, octets) ∈ files ↔ disk.find? (location ++ below) = some (.file octets)
  inOrder : files.Pairwise fun earlier later => Precedes earlier.1 later.1

variable {disk : Disk} {location : Location} {path : String}

theorem admitsBelow_of_unlimited (unlimited : disk.pathLimit? = none) :
    disk.AdmitsBelow path location := by
  intro below entry _
  rw [admits, unlimited, Option.all_none]

/-- There is only one such list. -/
theorem AreFilesBelow.eq {first second : List (Location × List UInt8)}
    (areFirst : disk.AreFilesBelow location first)
    (areSecond : disk.AreFilesBelow location second) : first = second := by
  have antisymmetric : Std.Antisymm
      (fun earlier later : Location × List UInt8 => Precedes earlier.1 later.1) :=
    ⟨fun _ _ precedes reversed => absurd reversed precedes.asymm⟩
  have irreflexive : Std.Irrefl
      (fun earlier later : Location × List UInt8 => Precedes earlier.1 later.1) :=
    ⟨fun _ precedes => precedes.asymm precedes⟩
  apply areFirst.inOrder.eq_of_mem_iff areSecond.inOrder
  intro file
  rw [areFirst.mem_iff file.1 file.2, areSecond.mem_iff file.1 file.2]

theorem find?_append_of_at? {node : Node} (isNode : Node.at? location disk.root = some node)
    (below : Location) : disk.find? (location ++ below) = node.find? below := by
  rw [find?, Node.find?, Node.at?_append, isNode, Option.bind_some, Node.find?]

theorem areFilesBelow_of_at? {node : Node} (isNode : Node.at? location disk.root = some node) :
    disk.AreFilesBelow location node.files := by
  refine ⟨fun below octets => ?_, node.pairwise_files⟩
  rw [Node.mem_files_iff, find?_append_of_at? isNode]

theorem find?_of_lookUp {entry : Entry} (found : disk.lookUp path = .ok (location, entry)) :
    disk.find? location = some entry := by
  rw [lookUp] at found
  cases located : disk.locate path with
  | error fault =>
      rw [located] at found
      cases found
  | ok target =>
      rw [located] at found
      simp only at found
      split at found
      · cases found
      · rename_i isDirectory
        cases found
        exact isDirectory
      · rename_i octets isFile
        split at found
        · cases found
        · cases found
          exact isFile

/-- A walk whose paths are all admitted comes upon the files at or below what the path leads to. -/
theorem exists_walk_eq {entry : Entry} (found : disk.lookUp path = .ok (location, entry))
    (admitted : disk.AdmitsBelow path location) :
    ∃ files, disk.AreFilesBelow location files ∧ disk.walk path = files.map fun file =>
      .ok ⟨file.1.foldl joinPath path, .ok file.2⟩ := by
  obtain ⟨node, isNode, _⟩ := Option.map_eq_some_iff.mp (find?_of_lookUp found)
  refine ⟨node.files, areFilesBelow_of_at? isNode, ?_⟩
  rw [walk, found]
  simp only [isNode, Option.map_some, Option.getD_some]
  apply Node.visits_eq_map_files
  intro below entry stored
  apply admitted below entry
  rw [find?_append_of_at? isNode, stored]

end ServiceBindings.Disk
