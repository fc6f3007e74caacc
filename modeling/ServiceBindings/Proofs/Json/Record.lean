import ServiceBindings.Json.Reading
import ServiceBindings.Proofs.Dictionary
import ServiceBindings.Proofs.Traversal

/-!
# Members of records

A record is read member by member.  Whether it is an object or an array, each member has at most
one value, and what is read as the member is read from that value.
-/

namespace ServiceBindings.Json

namespace Value

/-- The value of a member of a record: what an object has under the name of the member, and what
an array has in the place of its declaration. -/
def member? (shape : RecordShape) (name : String) : Value → Option Value
  | .object fields => Dictionary.findIn? name fields
  | .array items => items[shape.members.idxOf name]?
  | _ => none

/-- The items of a member that is a list, of which there are none if the member is left out. -/
def itemsOf (shape : RecordShape) (name : String) (value : Value) : List Value :=
  match value.member? shape name with
  | some (.array items) => items
  | _ => []

theorem asText_eq_ok_iff {value : Value} {text : String} :
    value.asText = .ok text ↔ value = .text text := by
  cases value <;> simp [asText]

theorem asList_eq_ok_iff {α : Type} {readItem : Value → Reading α} {value : Value}
    {results : List α} :
    value.asList readItem = .ok results ↔
      ∃ items, value = .array items ∧ items.mapM readItem = .ok results := by
  cases value <;> simp [asList]

end Value

namespace Record

variable {α : Type} {shape : RecordShape} {value : Value} {record : Record} {name : String}
  {readMember : Value → Reading α} {result : α}

theorem findIn?_zip {members : List String} (isMember : name ∈ members) (items : List Value) :
    Dictionary.findIn? name (members.zip items) = items[members.idxOf name]? := by
  induction members generalizing items with
  | nil => cases isMember
  | cons first rest ih =>
      cases items with
      | nil => rfl
      | cons item others =>
          rw [List.zip_cons_cons, Dictionary.findIn?, List.idxOf_cons]
          by_cases isFirst : name = first
          · simp [isFirst]
          · have inRest : name ∈ rest := (List.mem_cons.mp isMember).resolve_left isFirst
            have notFirst : (first == name) = false := by simpa using Ne.symm isFirst
            simp [isFirst, notFirst, ih inRest]

section Member

variable (found : ofValue shape value = .ok record) (isMember : name ∈ shape.members)

include found isMember

theorem read?_of_ofValue :
    record.read? name readMember = (value.member? shape name).map readMember := by
  cases value with
  | object fields =>
      cases found
      rfl
  | array items =>
      cases found
      rw [read?, findIn?_zip isMember, Value.member?]
  | _ => cases found

/-- A member that must be present is read from its value. -/
theorem required_read?_eq_ok_iff :
    record.required name (record.read? name readMember) = .ok result ↔
      ∃ member, value.member? shape name = some member ∧ readMember member = .ok result := by
  rw [read?_of_ofValue found isMember]
  cases value.member? shape name <;> simp [required]

/-- A member that may be left out is read from its value, if there is one. -/
theorem defaulted_read?_eq_ok_iff {fallback : α} :
    defaulted fallback (record.read? name readMember) = .ok result ↔
      (value.member? shape name = none ∧ fallback = result) ∨
        ∃ member, value.member? shape name = some member ∧ readMember member = .ok result := by
  rw [read?_of_ofValue found isMember]
  cases value.member? shape name <;> simp [defaulted]

/-- A list that must be present is read item by item. -/
theorem mapM_itemsOf_of_required {results : List α}
    (isRead : record.required name (record.read? name (Value.asList readMember)) = .ok results) :
    (value.itemsOf shape name).mapM readMember = .ok results := by
  obtain ⟨member, isMember, listRead⟩ := (required_read?_eq_ok_iff found isMember).mp isRead
  obtain ⟨items, rfl, itemsRead⟩ := Value.asList_eq_ok_iff.mp listRead
  rwa [Value.itemsOf, isMember]

/-- A list is read item by item, and without items if it is left out. -/
theorem mapM_itemsOf_of_defaulted {results : List α}
    (isRead : defaulted [] (record.read? name (Value.asList readMember)) = .ok results) :
    (value.itemsOf shape name).mapM readMember = .ok results := by
  cases (defaulted_read?_eq_ok_iff found isMember).mp isRead with
  | inl leftOut =>
      obtain ⟨absent, rfl⟩ := leftOut
      rw [Value.itemsOf, absent]
      rfl
  | inr given =>
      obtain ⟨member, isMember, listRead⟩ := given
      obtain ⟨items, rfl, itemsRead⟩ := Value.asList_eq_ok_iff.mp listRead
      rwa [Value.itemsOf, isMember]

end Member

/-- No fault is reported if no member has one. -/
theorem check_eq_ok {faults : List (String × Option ReadError)}
    (noFaults : ∀ fault ∈ faults, fault.2 = none) : record.check faults = .ok () := by
  have noneFound : ∀ ordered : List (String × Option ReadError), ordered ⊆ faults →
      ordered.findSome? (·.2) = none := by
    intro ordered subset
    exact List.findSome?_eq_none_iff.mpr fun fault member => noFaults fault (subset member)
  rw [check]
  by_cases isArray : record.itemCount.isSome = true
  · rw [if_pos isArray, noneFound faults (List.Subset.refl faults)]
  · rw [if_neg isArray, noneFound _ fun _ => Dictionary.mem_entries_ofList]

end Record

end ServiceBindings.Json
