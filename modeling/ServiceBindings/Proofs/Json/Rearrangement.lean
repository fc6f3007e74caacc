import ServiceBindings.Proofs.Json.Part
import ServiceBindings.Proofs.Json.Record

/-!
# Rearranged fields

A JSON value means the same whatever order the fields of its objects are in.  Reading does not
depend on that order either: from an object with rearranged fields the same members are read as
from the object itself.  Sorting a value is one way to rearrange it.
-/

namespace ServiceBindings.Json

namespace Value

/-- Whether a change of values only moves the fields of objects. -/
structure Rearranges (arrange : Value → Value) : Prop where
  null : arrange .null = .null
  bool : ∀ value, arrange (.bool value) = .bool value
  text : ∀ value, arrange (.text value) = .text value
  array : ∀ items, arrange (.array items) = .array (items.map arrange)
  /-- Without repeated keys, every field is found where it is moved to. -/
  object : ∀ fields : List (String × Value), (fields.map (·.1)).Nodup →
    ∃ moved, arrange (.object fields) = .object moved ∧
      ∀ key, Dictionary.findIn? key moved = (Dictionary.findIn? key fields).map arrange

theorem rearranges_id : Rearranges id where
  null := rfl
  bool _ := rfl
  text _ := rfl
  array items := by rw [id, List.map_id]
  object fields _ := ⟨fields, rfl, fun key => by rw [Option.map_id, id]⟩

/-- A field of an object without repeated keys is found among the sorted fields. -/
theorem findIn?_sortedFields {key : String} {fields entries : List (String × Value)}
    (distinct : (fields.map (·.1)).Nodup) :
    Dictionary.findIn? key (sortedFields fields entries) =
      ((Dictionary.findIn? key fields).map sorted).or (Dictionary.findIn? key entries) := by
  induction fields generalizing entries with
  | nil => rfl
  | cons field rest ih =>
      obtain ⟨present, value⟩ := field
      rw [List.map_cons, List.nodup_cons] at distinct
      rw [sortedFields, ih distinct.2, Dictionary.findIn?_insertEntry, Dictionary.findIn?]
      by_cases isKey : key = present
      · subst isKey
        simp [Dictionary.findIn?_eq_none_of_notMem distinct.1]
      · simp [isKey]

theorem rearranges_sorted : Rearranges sorted where
  null := rfl
  bool _ := rfl
  text _ := rfl
  array items := by rw [sorted, sortedItems_eq_map]
  object fields distinct := by
    refine ⟨sortedFields fields [], rfl, ?_⟩
    intro key
    rw [findIn?_sortedFields distinct]
    exact Option.or_none

namespace Rearranges

variable {arrange : Value → Value} (arranges : Rearranges arrange)

include arranges

/-! ## Reading rearranged values -/

theorem asText_text (text : String) : (arrange (.text text)).asText = .ok text := by
  rw [arranges.text, asText]

theorem asSwitch_bool (value : Bool) : (arrange (.bool value)).asSwitch = .ok value := by
  rw [arranges.bool, asSwitch]

theorem asOptionalText_ofText? (text? : Option String) :
    (arrange (ofText? text?)).asOptionalText = .ok text? := by
  cases text? with
  | none =>
      rw [ofText?, arranges.null]
      rfl
  | some text =>
      rw [ofText?, arranges.text]
      rfl

/-- A list is read back if each of its items is. -/
theorem asList_array {α : Type} {write : α → Value} {readItem : Value → Reading α}
    {items : List α} (readBack : ∀ item ∈ items, readItem (arrange (write item)) = .ok item) :
    (arrange (.array (items.map write))).asList readItem = .ok items := by
  have isRead := mapM_eq_ok id readBack
  rw [List.map_id] at isRead
  rw [arranges.array, List.map_map, asList, List.mapM_map]
  exact isRead

end Rearranges

end Value

/-! ## Reading rearranged records -/

/-- Whether a record holds what an object holds, rearranged. -/
structure Record.Holds (arrange : Value → Value) (value : Value) (record : Record) : Prop where
  itemCount : record.itemCount = none
  read? : ∀ {α : Type} (name : String) (readMember : Value → Reading α),
    record.read? name readMember =
      (value.field? name).map fun member => readMember (arrange member)

namespace Record.Holds

variable {arrange : Value → Value} {value : Value} {record : Record}

theorem read?_of_present (holds : record.Holds arrange value) {α : Type} (name : String)
    {member : Value} {readMember : Value → Reading α} {result : α}
    (present : value.field? name = some member)
    (isRead : readMember (arrange member) = .ok result) :
    record.read? name readMember = some (.ok result) := by
  rw [holds.read?, present, Option.map_some, isRead]

theorem read?_of_absent (holds : record.Holds arrange value) {α : Type} (name : String)
    (readMember : Value → Reading α) (absent : value.field? name = none) :
    record.read? name readMember = none := by
  rw [holds.read?, absent, Option.map_none]

theorem checkEnd (holds : record.Holds arrange value) : record.checkEnd = .ok () := by
  rw [Record.checkEnd, holds.itemCount]

end Record.Holds

/-- Rearranged objects are records. -/
theorem Value.Rearranges.exists_record {arrange : Value → Value} (arranges : Rearranges arrange)
    (shape : RecordShape) (value : Value) {fields : List (String × Value)}
    (isObject : value = .object fields) (distinct : (fields.map (·.1)).Nodup) :
    ∃ record, Record.ofValue shape (arrange value) = .ok record ∧ record.Holds arrange value := by
  subst isObject
  obtain ⟨moved, isMoved, found⟩ := arranges.object fields distinct
  refine ⟨⟨shape, moved, none⟩, by rw [isMoved]; rfl, rfl, ?_⟩
  intro α name readMember
  rw [Record.read?, found, Option.map_map]
  rfl

end ServiceBindings.Json
