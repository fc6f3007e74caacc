import Mathlib.Data.List.Basic
import ServiceBindings.Json.Value
import ServiceBindings.Proofs.Dictionary

/-!
# Parts of JSON values

The parts of a value are the value itself and everything in its items and fields, at any depth.
Sorting a value makes no new parts: what stands in the sorted value is a part, sorted.
-/

namespace ServiceBindings.Json.Value

/-! ## Induction -/

section Induction

variable {motive : Value → Prop} (null : motive .null) (bool : ∀ value, motive (.bool value))
  (number : ∀ value, motive (.number value)) (text : ∀ value, motive (.text value))
  (array : ∀ items, (∀ item ∈ items, motive item) → motive (.array items))
  (object : ∀ fields, (∀ field ∈ fields, motive field.2) → motive (.object fields))

include null bool number text array object

-- The linter does not see that the three theorems use the cases through each other.
set_option linter.unusedSectionVars false

mutual

/-- A property holds of every value if it passes from the items and fields to the arrays and objects
around them. -/
@[elab_as_elim]
theorem byMembers : ∀ value, motive value
  | .null => null
  | .bool value => bool value
  | .number value => number value
  | .text value => text value
  | .array items => array items (itemsByMembers items)
  | .object fields => object fields (fieldsByMembers fields)
termination_by structural value => value

theorem itemsByMembers : ∀ items : List Value, ∀ item ∈ items, motive item
  | [], _, isItem => nomatch isItem
  | first :: rest, item, isItem =>
    (List.mem_cons.mp isItem).elim (fun isFirst => isFirst ▸ byMembers first)
      (fun inRest => itemsByMembers rest item inRest)
termination_by structural items => items

theorem fieldsByMembers : ∀ fields : List (String × Value), ∀ field ∈ fields, motive field.2
  | [], _, isField => nomatch isField
  | (_, value) :: rest, field, isField =>
    (List.mem_cons.mp isField).elim (fun isFirst => isFirst ▸ byMembers value)
      (fun inRest => fieldsByMembers rest field inRest)
termination_by structural fields => fields

end

end Induction

/-! ## Parts -/

/-- Whether a value stands in another one, at any depth, or is that one itself. -/
inductive IsPartOf (part : Value) : Value → Prop where
  | itself : IsPartOf part part
  | inItem {items : List Value} {item : Value} (isItem : item ∈ items)
      (inside : IsPartOf part item) : IsPartOf part (.array items)
  | inField {fields : List (String × Value)} {field : String × Value} (isField : field ∈ fields)
      (inside : IsPartOf part field.2) : IsPartOf part (.object fields)

theorem IsPartOf.trans {part middle value : Value} (inner : part.IsPartOf middle)
    (outer : middle.IsPartOf value) : part.IsPartOf value := by
  induction outer with
  | itself => exact inner
  | inItem isItem _ ih => exact .inItem isItem ih
  | inField isField _ ih => exact .inField isField ih

theorem sortedItems_eq_map (items : List Value) : sortedItems items = items.map sorted := by
  induction items with
  | nil => rfl
  | cons item rest ih => rw [sortedItems, ih, List.map_cons]

/-- The fields of a sorted object are fields of the object, sorted. -/
theorem mem_sortedFields {fields entries : List (String × Value)} {field : String × Value}
    (member : field ∈ sortedFields fields entries) :
    field ∈ entries ∨ ∃ original ∈ fields, field = (original.1, original.2.sorted) := by
  induction fields generalizing entries with
  | nil => exact .inl member
  | cons first rest ih =>
      rw [sortedFields] at member
      cases ih member with
      | inl inEntries =>
          cases Dictionary.mem_insertEntry inEntries with
          | inl isFirst => exact .inr ⟨first, List.mem_cons_self, isFirst⟩
          | inr before => exact .inl before
      | inr inRest =>
          obtain ⟨original, isMember, isImage⟩ := inRest
          exact .inr ⟨original, List.mem_cons_of_mem _ isMember, isImage⟩

theorem forall_key_sortedFields (condition : String → Prop) {fields : List (String × Value)}
    (given : ∀ field ∈ fields, condition field.1) :
    ∀ field ∈ sortedFields fields [], condition field.1 := by
  intro field member
  obtain ⟨original, isField, rfl⟩ := (mem_sortedFields member).resolve_left List.not_mem_nil
  exact given original isField

theorem sortedFields_eq_nil_iff {fields entries : List (String × Value)} :
    sortedFields fields entries = [] ↔ fields = [] ∧ entries = [] := by
  induction fields generalizing entries with
  | nil => simp [sortedFields]
  | cons field rest ih =>
      obtain ⟨key, value⟩ := field
      have inserted : Dictionary.insertEntry key value.sorted entries ≠ [] := by
        intro isNil
        have found := Dictionary.findIn?_insertEntry key key value.sorted entries
        rw [isNil, if_pos rfl] at found
        cases found
      rw [sortedFields, ih]
      simp [inserted]

theorem exists_of_isPartOf_sorted {part value : Value} (inSorted : part.IsPartOf value.sorted) :
    ∃ original : Value, original.IsPartOf value ∧ part = original.sorted := by
  induction value using byMembers with
  | null | bool | number | text =>
      cases inSorted
      exact ⟨_, .itself, rfl⟩
  | array items ih =>
      cases inSorted with
      | itself => exact ⟨_, .itself, rfl⟩
      | inItem isItem inside =>
          rw [sortedItems_eq_map] at isItem
          obtain ⟨item, member, rfl⟩ := List.mem_map.mp isItem
          obtain ⟨original, isPart, isSorted⟩ := ih item member inside
          exact ⟨original, .inItem member isPart, isSorted⟩
  | object fields ih =>
      cases inSorted with
      | itself => exact ⟨_, .itself, rfl⟩
      | inField isField inside =>
          obtain ⟨field, member, rfl⟩ := (mem_sortedFields isField).resolve_left List.not_mem_nil
          obtain ⟨original, isPart, isSorted⟩ := ih field member inside
          exact ⟨original, .inField member isPart, isSorted⟩

/-! ## Conditions on all parts -/

/-- Whether all parts of a value meet a condition. -/
def Everywhere (condition : Value → Prop) (value : Value) : Prop :=
  ∀ part : Value, part.IsPartOf value → condition part

section Everywhere

variable {condition : Value → Prop}

theorem everywhere_iff_of_leaf {value : Value}
    (leaf : ∀ part : Value, part.IsPartOf value → part = value) :
    value.Everywhere condition ↔ condition value := by
  constructor
  · intro given
    exact given _ .itself
  · intro given part isPart
    rw [leaf part isPart]
    exact given

@[simp] theorem everywhere_null_iff : null.Everywhere condition ↔ condition null :=
  everywhere_iff_of_leaf fun _ isPart => by cases isPart; rfl

@[simp] theorem everywhere_bool_iff (value : Bool) :
    (bool value).Everywhere condition ↔ condition (bool value) :=
  everywhere_iff_of_leaf fun _ isPart => by cases isPart; rfl

@[simp] theorem everywhere_number_iff (value : Number) :
    (number value).Everywhere condition ↔ condition (number value) :=
  everywhere_iff_of_leaf fun _ isPart => by cases isPart; rfl

@[simp] theorem everywhere_text_iff (value : String) :
    (text value).Everywhere condition ↔ condition (text value) :=
  everywhere_iff_of_leaf fun _ isPart => by cases isPart; rfl

@[simp] theorem everywhere_array_iff (items : List Value) :
    (array items).Everywhere condition ↔
      condition (array items) ∧ ∀ item ∈ items, item.Everywhere condition := by
  constructor
  · intro given
    exact ⟨given _ .itself, fun item isItem part inside => given part (.inItem isItem inside)⟩
  · intro given part isPart
    cases isPart with
    | itself => exact given.1
    | inItem isItem inside => exact given.2 _ isItem part inside

@[simp] theorem everywhere_object_iff (fields : List (String × Value)) :
    (object fields).Everywhere condition ↔
      condition (object fields) ∧ ∀ field ∈ fields, field.2.Everywhere condition := by
  constructor
  · intro given
    exact ⟨given _ .itself, fun field isField part inside => given part (.inField isField inside)⟩
  · intro given part isPart
    cases isPart with
    | itself => exact given.1
    | inField isField inside => exact given.2 _ isField part inside

/-- A condition that sorting preserves holds everywhere in a sorted value if it does in the value. -/
theorem Everywhere.sorted {value : Value} (given : value.Everywhere condition)
    (preserved : ∀ part : Value, condition part → condition part.sorted) :
    value.sorted.Everywhere condition := by
  intro part inSorted
  obtain ⟨original, isPart, rfl⟩ := exists_of_isPartOf_sorted inSorted
  exact preserved original (given original isPart)

end Everywhere

end ServiceBindings.Json.Value
