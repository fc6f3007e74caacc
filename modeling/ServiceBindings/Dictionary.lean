/-!
# Dictionaries

Finite maps from texts to values, kept as entries in strictly ascending order of their keys.
Texts are ordered by code point, which is also the order of their UTF-8 octets.  The view of
a dictionary is `find?`; two dictionaries with the same view are equal.
-/

namespace ServiceBindings

universe u

variable {α : Type u}

/-- Entries in strictly ascending order of their keys. -/
structure Dictionary (α : Type u) where
  entries : List (String × α)
  ascending : entries.Pairwise (fun earlier later => earlier.1 < later.1)
deriving DecidableEq, Repr

namespace Dictionary

/-- The value at a key of a list of entries. -/
def findIn? (key : String) : List (String × α) → Option α
  | [] => none
  | (present, value) :: rest => if key = present then some value else findIn? key rest

/-- Puts an entry in its place among ascending ones, where it replaces the entry of its key. -/
def insertEntry (key : String) (value : α) : List (String × α) → List (String × α)
  | [] => [(key, value)]
  | (present, old) :: rest =>
    if key < present then (key, value) :: (present, old) :: rest
    else if key = present then (key, value) :: rest
    else (present, old) :: insertEntry key value rest

theorem mem_insertEntry {key : String} {value : α} {entry : String × α}
    {entries : List (String × α)} (member : entry ∈ insertEntry key value entries) :
    entry = (key, value) ∨ entry ∈ entries := by
  induction entries with
  | nil => simpa [insertEntry] using member
  | cons head rest ih =>
      obtain ⟨present, old⟩ := head
      simp only [insertEntry] at member
      split at member
      · simpa using member
      · split at member
        · simp only [List.mem_cons] at member ⊢
          exact member.elim .inl fun inRest => .inr (.inr inRest)
        · simp only [List.mem_cons] at member ⊢
          rcases member with isHead | inRest
          · exact .inr (.inl isHead)
          · exact (ih inRest).elim .inl fun old => .inr (.inr old)

theorem lt_of_not_lt_of_ne {left right : String} (notLess : ¬left < right)
    (different : left ≠ right) : right < left := by
  rcases Std.le_total (a := left) (b := right) with leftLe | rightLe
  · exact absurd (String.le_antisymm leftLe (String.not_lt.mp notLess)) different
  · exact Std.lt_of_le_of_ne rightLe (Ne.symm different)

theorem pairwise_insertEntry (key : String) (value : α) {entries : List (String × α)}
    (ascending : entries.Pairwise (fun earlier later => earlier.1 < later.1)) :
    (insertEntry key value entries).Pairwise (fun earlier later => earlier.1 < later.1) := by
  induction entries with
  | nil => simp [insertEntry]
  | cons head rest ih =>
      obtain ⟨present, old⟩ := head
      have ⟨beforeRest, ascendingRest⟩ := List.pairwise_cons.mp ascending
      simp only [insertEntry]
      split
      next less =>
        refine List.pairwise_cons.mpr ⟨fun entry member => ?_, ascending⟩
        rcases List.mem_cons.mp member with rfl | inRest
        · exact less
        · exact String.lt_trans less (beforeRest entry inRest)
      next notLess =>
        split
        next same =>
          subst same
          exact List.pairwise_cons.mpr ⟨beforeRest, ascendingRest⟩
        next different =>
          refine List.pairwise_cons.mpr ⟨fun entry member => ?_, ih ascendingRest⟩
          rcases mem_insertEntry member with rfl | inRest
          · exact lt_of_not_lt_of_ne notLess different
          · exact beforeRest entry inRest

/-- The dictionary without entries. -/
def empty : Dictionary α := ⟨[], .nil⟩

/-- The value at a key. -/
def find? (dictionary : Dictionary α) (key : String) : Option α :=
  findIn? key dictionary.entries

/-- Whether a key has a value. -/
def contains (dictionary : Dictionary α) (key : String) : Bool :=
  (dictionary.find? key).isSome

/-- Gives a key its value, in the place of an older one. -/
def insert (dictionary : Dictionary α) (key : String) (value : α) : Dictionary α :=
  ⟨insertEntry key value dictionary.entries,
    pairwise_insertEntry key value dictionary.ascending⟩

/-- Gives a key its value, unless it has one already. -/
def insertNew (dictionary : Dictionary α) (key : String) (value : α) : Dictionary α :=
  if dictionary.contains key then dictionary else dictionary.insert key value

/-- The keys in ascending order. -/
def keys (dictionary : Dictionary α) : List String :=
  dictionary.entries.map (·.1)

/-- The values in the order of their keys. -/
def values (dictionary : Dictionary α) : List α :=
  dictionary.entries.map (·.2)

/-- The number of entries. -/
def size (dictionary : Dictionary α) : Nat :=
  dictionary.entries.length

/-- Whether there is no entry. -/
def isEmpty (dictionary : Dictionary α) : Bool :=
  dictionary.entries.isEmpty

/-- The dictionary of a list of entries, of which the last one of a key counts. -/
def ofList (entries : List (String × α)) : Dictionary α :=
  entries.foldl (fun dictionary entry => dictionary.insert entry.1 entry.2) empty

theorem findIn?_insertEntry (key query : String) (value : α) (entries : List (String × α)) :
    findIn? query (insertEntry key value entries) =
      if query = key then some value else findIn? query entries := by
  induction entries with
  | nil => rfl
  | cons head rest ih =>
      obtain ⟨present, old⟩ := head
      simp only [insertEntry]
      split
      · rfl
      · split
        next same =>
          subst same
          simp only [findIn?]
          split <;> rfl
        next different =>
          simp only [findIn?, ih]
          by_cases isPresent : query = present
          · have notKey : query ≠ key := fun isKey => different (isKey ▸ isPresent)
            simp [isPresent, Ne.symm different]
          · simp [isPresent]

@[simp] theorem find?_empty (key : String) : (empty : Dictionary α).find? key = none := rfl

theorem find?_insert (dictionary : Dictionary α) (key query : String) (value : α) :
    (dictionary.insert key value).find? query =
      if query = key then some value else dictionary.find? query :=
  findIn?_insertEntry key query value dictionary.entries

theorem find?_insertNew (dictionary : Dictionary α) (key query : String) (value : α) :
    (dictionary.insertNew key value).find? query =
      if query = key then some ((dictionary.find? key).getD value)
      else dictionary.find? query := by
  unfold insertNew contains
  by_cases present : (dictionary.find? key).isSome
  · simp only [present, if_true]
    obtain ⟨old, found⟩ := Option.isSome_iff_exists.mp present
    by_cases isKey : query = key
    · subst isKey
      simp [found]
    · simp [isKey]
  · have absent : dictionary.find? key = none := by simpa using present
    simp [absent, find?_insert]

end Dictionary

end ServiceBindings
