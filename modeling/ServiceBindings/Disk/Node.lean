import ServiceBindings.Dictionary

/-!
# Trees of files

What is stored in one place is a file with its octets or a directory with its members.  There is
nothing else: no links, neither symbolic nor hard ones, and no devices, sockets or pipes.  So a
file is at one location, and what is written there is not seen anywhere else.

The view of a tree is `find?`, which tells what is at a location; `put` and `remove` change it at
one location only.
-/

namespace ServiceBindings.Disk

/-- The names on the way from the root. -/
abbrev Location := List String

/-- What is at a location. -/
inductive Entry where
  | directory
  | file (octets : List UInt8)
deriving DecidableEq, Repr

/-- A file, or a directory with its members.  Of two members of one name the first counts.  A file
belongs to the one directory that holds it; two directories cannot hold the same file. -/
inductive Node where
  | file (octets : List UInt8)
  | directory (members : List (String × Node))

namespace Node

/-- A directory without members. -/
def empty : Node := directory []

/-- What a node is. -/
def entry : Node → Entry
  | file octets => .file octets
  | directory _ => .directory

/-- The node that is just an entry. -/
def ofEntry : Entry → Node
  | .file octets => file octets
  | .directory => empty

/-- The members of a directory. -/
def members : Node → List (String × Node)
  | file _ => []
  | directory members => members

/-- The node at a location below a node. -/
def at? : Location → Node → Option Node
  | [], node => some node
  | name :: rest, directory members => (Dictionary.findIn? name members).bind (at? rest)
  | _ :: _, file _ => none

/-- What is at a location below a node. -/
def find? (location : Location) (node : Node) : Option Entry :=
  (at? location node).map entry

/-- The tree with a node at a location, in directories that are made if they are missing. -/
def put (new : Node) : Location → Node → Node
  | [], _ => new
  | name :: rest, directory members =>
    directory (Dictionary.insertEntry name
      (put new rest ((Dictionary.findIn? name members).getD empty)) members)
  | _ :: _, file octets => file octets

/-- The tree without the node at a location. -/
def remove : Location → Node → Node
  | [], node => node
  | [name], directory members => directory (members.filter (·.1 != name))
  | name :: rest, directory members =>
    match Dictionary.findIn? name members with
    | some member => directory (Dictionary.insertEntry name (remove rest member) members)
    | none => directory members
  | _ :: _, file octets => file octets

@[simp] theorem find?_nil (node : Node) : find? [] node = some node.entry := rfl

@[simp] theorem find?_cons_file (name : String) (rest : Location) (octets : List UInt8) :
    find? (name :: rest) (file octets) = none := rfl

theorem find?_cons_directory (name : String) (rest : Location)
    (members : List (String × Node)) :
    find? (name :: rest) (directory members) =
      (Dictionary.findIn? name members).bind (find? rest) := by
  cases found : Dictionary.findIn? name members <;> simp [find?, at?, found]

theorem find?_ofEntry (new : Entry) (query : Location) :
    find? query (ofEntry new) = if query = [] then some new else none := by
  cases query with
  | nil => cases new <;> rfl
  | cons name rest => cases new <;> rfl

theorem exists_members_of_find? {name : String} {rest : Location} {node : Node}
    {found : Entry} (present : find? (name :: rest) node = some found) :
    ∃ members member, node = directory members ∧
      Dictionary.findIn? name members = some member ∧ find? rest member = some found := by
  cases node with
  | file octets => simp at present
  | directory members =>
      rw [find?_cons_directory] at present
      obtain ⟨member, isMember, inMember⟩ := Option.bind_eq_some_iff.mp present
      exact ⟨members, member, rfl, isMember, inMember⟩

theorem find?_put (new : Entry) {location : Location} (belowTop : location ≠ [])
    {node : Node} (inDirectory : find? location.dropLast node = some .directory)
    (free : find? location node ≠ some .directory) (query : Location) :
    find? query (put (ofEntry new) location node) =
      if query = location then some new else find? query node := by
  induction location generalizing node query with
  | nil => exact absurd rfl belowTop
  | cons name rest ih =>
      cases rest with
      | nil =>
          cases node with
          | file octets => cases inDirectory
          | directory members =>
              cases query with
              | nil => simp [put, entry]
              | cons first others =>
                  rw [put, put, find?_cons_directory, Dictionary.findIn?_insertEntry,
                    find?_cons_directory]
                  rw [find?_cons_directory] at free
                  by_cases isName : first = name
                  · subst isName
                    simp only [if_true, Option.bind_some, find?_ofEntry, List.cons.injEq,
                      true_and]
                    by_cases atEnd : others = []
                    · simp [atEnd]
                    · obtain ⟨second, others, rfl⟩ := List.exists_cons_of_ne_nil atEnd
                      cases found : Dictionary.findIn? first members with
                      | none => simp
                      | some member =>
                          cases member with
                          | file octets => simp
                          | directory inner => simp [found, entry] at free
                  · simp [isName]
      | cons second others =>
          obtain ⟨members, member, rfl, isMember, inMember⟩ :=
            exists_members_of_find? (by simpa using inDirectory)
          rw [find?_cons_directory, isMember, Option.bind_some] at free
          cases query with
          | nil => simp [put, entry]
          | cons first later =>
              rw [put, find?_cons_directory, Dictionary.findIn?_insertEntry,
                find?_cons_directory]
              by_cases isName : first = name
              · subst isName
                simpa [isMember] using ih (List.cons_ne_nil _ _) inMember free later
              · simp [isName]

theorem findIn?_filter_ne (name query : String) (members : List (String × Node)) :
    Dictionary.findIn? query (members.filter (·.1 != name)) =
      if query = name then none else Dictionary.findIn? query members := by
  induction members with
  | nil => simp [Dictionary.findIn?]
  | cons head rest ih =>
      obtain ⟨present, node⟩ := head
      by_cases isName : present = name
      · subst isName
        by_cases isQuery : query = present
        · simpa [isQuery] using ih
        · simpa [isQuery, Dictionary.findIn?] using ih
      · by_cases isQuery : query = present
        · subst isQuery
          simp [isName, Dictionary.findIn?]
        · simpa [isName, isQuery, Dictionary.findIn?] using ih

theorem find?_remove {location : Location} (belowTop : location ≠ []) {node : Node}
    (free : find? location node ≠ some .directory) (query : Location) :
    find? query (remove location node) =
      if query = location then none else find? query node := by
  induction location generalizing node query with
  | nil => exact absurd rfl belowTop
  | cons name rest ih =>
      cases node with
      | file octets =>
          have unchanged : remove (name :: rest) (file octets) = file octets := by
            cases rest <;> rfl
          rw [unchanged]
          by_cases isLocation : query = name :: rest
          · simp [isLocation]
          · simp [isLocation]
      | directory members =>
          rw [find?_cons_directory] at free
          cases rest with
          | nil =>
              cases query with
              | nil => simp [remove, entry]
              | cons first others =>
                  rw [remove, find?_cons_directory, findIn?_filter_ne,
                    find?_cons_directory]
                  by_cases isName : first = name
                  · subst isName
                    cases found : Dictionary.findIn? first members with
                    | none => simp
                    | some member =>
                        cases member with
                        | file octets => cases others <;> simp
                        | directory inner => simp [found, entry] at free
                  · simp [isName]
          | cons second others =>
              cases found : Dictionary.findIn? name members with
              | none =>
                  simp only [remove, found]
                  by_cases isLocation : query = name :: second :: others
                  · simp [isLocation, find?_cons_directory, found]
                  · simp [isLocation]
              | some member =>
                  rw [found, Option.bind_some] at free
                  cases query with
                  | nil => simp [remove, found, entry]
                  | cons first later =>
                      simp only [remove, found]
                      rw [find?_cons_directory, Dictionary.findIn?_insertEntry,
                        find?_cons_directory]
                      by_cases isName : first = name
                      · subst isName
                        simpa [found] using ih (List.cons_ne_nil _ _) free later
                      · simp [isName]

mutual

/-- Everything below a node, by the names that lead there, in ascending order. -/
def contents : Node → List (Location × Entry)
  | file _ => []
  | directory members => (memberContents members).values.flatten
termination_by structural node => node

/-- Every member with everything below it, by the names of the members. -/
def memberContents : List (String × Node) → Dictionary (List (Location × Entry))
  | [] => .empty
  | (name, node) :: rest =>
    (memberContents rest).insert name
      (([name], node.entry) :: (contents node).map fun (location, entry) => (name :: location, entry))
termination_by structural members => members

end

end Node

end ServiceBindings.Disk
