import Mathlib.Data.List.Induction
import Mathlib.Data.List.Sort
import ServiceBindings.Dictionary

/-!
# The view of a dictionary

A dictionary is determined by what it holds at each key.  Since its entries ascend, finding a
value at a key is the same as having the pair among the entries.
-/

namespace ServiceBindings.Dictionary

universe u

variable {α : Type u}

theorem mem_of_findIn?_eq_some {key : String} {value : α} {entries : List (String × α)}
    (found : findIn? key entries = some value) : (key, value) ∈ entries := by
  induction entries with
  | nil => simp [findIn?] at found
  | cons head rest ih =>
      rcases head with ⟨present, old⟩
      by_cases isPresent : key = present
      · subst isPresent
        simp only [findIn?, if_true, Option.some.injEq] at found
        simp [found]
      · simp only [findIn?, isPresent, if_false] at found
        exact List.mem_cons_of_mem _ (ih found)

theorem findIn?_eq_some_of_mem {key : String} {value : α} {entries : List (String × α)}
    (ascending : entries.Pairwise (fun earlier later => earlier.1 < later.1))
    (member : (key, value) ∈ entries) : findIn? key entries = some value := by
  induction entries with
  | nil => simp at member
  | cons head rest ih =>
      rcases head with ⟨present, old⟩
      have ⟨beforeRest, ascendingRest⟩ := List.pairwise_cons.mp ascending
      rcases List.mem_cons.mp member with isHead | inRest
      · cases isHead
        simp [findIn?]
      · have less : present < key := beforeRest _ inRest
        have different : key ≠ present := fun same => String.lt_irrefl _ (same ▸ less)
        simpa [findIn?, different] using ih ascendingRest inRest

theorem findIn?_eq_none_of_notMem {key : String} {entries : List (String × α)}
    (absent : key ∉ entries.map (·.1)) : findIn? key entries = none := by
  rw [Option.eq_none_iff_forall_ne_some]
  intro value found
  exact absent (List.mem_map.mpr ⟨_, mem_of_findIn?_eq_some found, rfl⟩)

theorem find?_eq_some_iff_mem (dictionary : Dictionary α) (key : String) (value : α) :
    dictionary.find? key = some value ↔ (key, value) ∈ dictionary.entries :=
  ⟨mem_of_findIn?_eq_some, findIn?_eq_some_of_mem dictionary.ascending⟩

theorem mem_entries_ofList {entries : List (String × α)} {entry : String × α}
    (member : entry ∈ (ofList entries).entries) : entry ∈ entries := by
  induction entries using List.reverseRecOn with
  | nil => exact member
  | append_singleton front last ih =>
      rw [ofList, List.foldl_append] at member
      rw [List.mem_append, List.mem_singleton]
      rcases mem_insertEntry member with isLast | inFront
      · exact .inr isLast
      · exact .inl (ih inFront)

theorem mem_keys_iff {dictionary : Dictionary α} {key : String} :
    key ∈ dictionary.keys ↔ dictionary.contains key = true := by
  rw [contains, Option.isSome_iff_exists, keys, List.mem_map]
  constructor
  · intro given
    rcases given with ⟨⟨_, value⟩, member, rfl⟩
    exact ⟨value, (find?_eq_some_iff_mem dictionary _ value).mpr member⟩
  · intro given
    rcases given with ⟨value, found⟩
    exact ⟨(key, value), (find?_eq_some_iff_mem dictionary key value).mp found, rfl⟩

theorem mem_keys_insert_iff {dictionary : Dictionary α} {key present : String} {value : α} :
    present ∈ (dictionary.insert key value).keys ↔ present = key ∨ present ∈ dictionary.keys := by
  rw [mem_keys_iff, mem_keys_iff, contains, contains, find?_insert]
  split
  · rename_i isKey
    simp [isKey]
  · rename_i different
    simp [different]

theorem perm_insertEntry_of_absent {key : String} (value : α) {entries : List (String × α)}
    (absent : findIn? key entries = none) :
    (insertEntry key value entries).Perm ((key, value) :: entries) := by
  induction entries with
  | nil => exact .refl _
  | cons head rest ih =>
      rcases head with ⟨present, old⟩
      rw [findIn?] at absent
      split at absent
      · cases absent
      · rename_i different
        rw [insertEntry, if_neg different]
        split
        · exact .refl _
        · exact ((ih absent).cons _).trans (.swap ..)

theorem pairwise_keys (dictionary : Dictionary α) : dictionary.keys.Pairwise (· < ·) :=
  List.pairwise_map.mpr dictionary.ascending

theorem nodup_keys (dictionary : Dictionary α) : dictionary.keys.Nodup := by
  apply dictionary.pairwise_keys.imp
  intro earlier later less same
  rw [same] at less
  exact String.lt_irrefl later less

/-- The keys of a dictionary are any list of them once it is sorted. -/
theorem keys_eq_mergeSort_of_perm {dictionary : Dictionary α} {texts : List String}
    (perm : dictionary.keys.Perm texts) : dictionary.keys = texts.mergeSort := by
  have ascending : dictionary.keys.Pairwise (· ≤ ·) := dictionary.pairwise_keys.imp Std.le_of_lt
  have transitive : ∀ first second third : String, decide (first ≤ second) = true →
      decide (second ≤ third) = true → decide (first ≤ third) = true := by
    simpa using fun _ _ _ => String.le_trans
  have total : ∀ left right : String, (decide (left ≤ right) || decide (right ≤ left)) = true := by
    simpa using String.le_total
  have sorted : texts.mergeSort.Pairwise (· ≤ ·) := by
    simpa using List.pairwise_mergeSort transitive total texts
  exact (perm.trans (texts.mergeSort_perm _).symm).eq_of_pairwise
    (fun _ _ _ _ => String.le_antisymm) ascending sorted

/-- Dictionaries with the same view are equal. -/
theorem ext_find? {left right : Dictionary α}
    (sameView : ∀ key, left.find? key = right.find? key) : left = right := by
  rcases left with ⟨leftEntries, leftAscending⟩
  rcases right with ⟨rightEntries, rightAscending⟩
  have irreflexive : Std.Irrefl (fun earlier later : String × α => earlier.1 < later.1) :=
    ⟨fun entry => String.lt_irrefl entry.1⟩
  have sameEntries : leftEntries = rightEntries := by
    apply leftAscending.eq_of_mem_iff rightAscending
    intro entry
    have leftIff := find?_eq_some_iff_mem ⟨leftEntries, leftAscending⟩ entry.1 entry.2
    have rightIff := find?_eq_some_iff_mem ⟨rightEntries, rightAscending⟩ entry.1 entry.2
    rw [← leftIff, ← rightIff, sameView]
  subst sameEntries
  rfl

theorem findIn?_map {β : Type u} (change : String → α → β) (key : String)
    (entries : List (String × α)) :
    findIn? key (entries.map fun entry => (entry.1, change entry.1 entry.2)) =
      (findIn? key entries).map (change key) := by
  induction entries with
  | nil => rfl
  | cons head rest ih =>
      rw [List.map_cons, findIn?, findIn?]
      split
      · rename_i isKey
        rw [isKey, Option.map_some]
      · exact ih

/-- A dictionary whose values come from those of another one at the same keys has the entries that
come from the entries of the other one. -/
theorem entries_eq_map {β : Type u} {source : Dictionary α} {image : Dictionary β}
    {change : String → α → β}
    (isImage : ∀ key, image.find? key = (source.find? key).map (change key)) :
    image.entries = source.entries.map fun entry => (entry.1, change entry.1 entry.2) := by
  have ascending : (source.entries.map fun entry => (entry.1, change entry.1 entry.2)).Pairwise
      (fun earlier later => earlier.1 < later.1) := List.pairwise_map.mpr source.ascending
  have sameView : image = ⟨_, ascending⟩ := by
    apply ext_find?
    intro key
    rw [isImage, find?, find?, findIn?_map]
  rw [sameView]

end ServiceBindings.Dictionary
