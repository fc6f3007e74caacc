import Mathlib.Data.List.Nodup
import ServiceBindings.Schema.Validation

/-!
# What valid schema files have

The services of a valid schema file have distinct names, and whatever is wrong with another
file is an error about a schema.
-/

namespace ServiceBindings.Schema

theorem Message.areNamed_iff {messages : List Message} :
    areNamed messages = true ↔ ∀ message ∈ messages, message.isNamed = true := by
  induction messages with
  | nil => simp [areNamed]
  | cons message rest ih => rw [areNamed, Bool.and_eq_true, ih, List.forall_mem_cons]

namespace Service

theorem defect?_eq_none_iff (earlier : List String) (service : Service) :
    service.defect? earlier = none ↔ service.name ≠ "" ∧ service.name ∉ earlier ∧
      ∀ method ∈ service.methods, method.defect? service.name = none := by
  rw [defect?]
  by_cases unnamed : service.name = ""
  · simp [unnamed]
  · by_cases isEarlier : service.name ∈ earlier
    · simp [unnamed, isEarlier]
    · simp [unnamed, isEarlier, List.findSome?_eq_none_iff]

/-- Services have no defect if none has one by itself and no name is repeated. -/
theorem firstDefect?_eq_none_iff (earlier : List String) (services : List Service) :
    firstDefect? earlier services = none ↔
      (∀ service ∈ services, service.defect? earlier = none) ∧
        (services.map (·.name)).Nodup := by
  induction services generalizing earlier with
  | nil => simp [firstDefect?]
  | cons service rest ih =>
      rw [firstDefect?, Option.or_eq_none_iff, ih, List.map_cons, List.nodup_cons]
      constructor
      · intro given
        rcases given with ⟨first, others, distinct⟩
        refine ⟨?_, ?_, distinct⟩
        · intro other member
          rcases List.mem_cons.mp member with rfl | inRest
          · exact first
          · have sound := (defect?_eq_none_iff _ other).mp (others other inRest)
            exact (defect?_eq_none_iff _ other).mpr
              ⟨sound.1, fun isEarlier => sound.2.1 (by simp [isEarlier]), sound.2.2⟩
        · intro repeated
          rcases List.mem_map.mp repeated with ⟨other, inRest, sameName⟩
          have sound := (defect?_eq_none_iff _ other).mp (others other inRest)
          exact sound.2.1 (by simp [sameName])
      · intro given
        rcases given with ⟨every, newName, distinct⟩
        refine ⟨every service (by simp), ?_, distinct⟩
        intro other inRest
        have sound := (defect?_eq_none_iff _ other).mp (every other (by simp [inRest]))
        refine (defect?_eq_none_iff _ other).mpr ⟨sound.1, ?_, sound.2.2⟩
        rw [List.mem_cons, not_or]
        exact ⟨fun sameName => newName (List.mem_map.mpr ⟨other, inRest, sameName⟩),
          sound.2.1⟩

end Service

namespace File

theorem validate_eq_ok_iff (file : File) : file.validate = .ok () ↔ file.defect? = none := by
  rw [validate]
  cases file.defect? with
  | none => simp
  | some defect => simp

theorem isSchemaError_of_validate {file : File} {error : GenerationError}
    (invalid : file.validate = .error error) : error.isSchemaError = true := by
  rw [validate] at invalid
  cases found : file.defect? with
  | none =>
      rw [found] at invalid
      cases invalid
  | some defect =>
      rw [found] at invalid
      cases invalid
      rfl

/-- What validation demands of a file, its messages and its services. -/
theorem defect?_eq_none_iff (file : File) :
    file.defect? = none ↔ file.name ≠ "" ∧ (∀ message ∈ file.messages, message.isNamed = true) ∧
      (∀ service ∈ file.services, service.defect? [] = none) ∧
        (file.services.map (·.name)).Nodup := by
  rw [defect?, ← Service.firstDefect?_eq_none_iff]
  by_cases unnamed : file.name = ""
  · simp [unnamed]
  · cases found : file.messages.find? (!·.isNamed) with
    | some message =>
        have unnamedMessage := List.find?_some found
        have member := List.mem_of_find?_eq_some found
        simp only [String.isEmpty_iff, unnamed, if_false, reduceCtorEq, false_iff, not_and]
        intro _ areNamed
        rw [areNamed message member] at unnamedMessage
        cases unnamedMessage
    | none =>
        have areNamed : ∀ message ∈ file.messages, message.isNamed = true := by
          simpa using List.find?_eq_none.mp found
        simp only [String.isEmpty_iff, unnamed, if_false]
        exact ⟨fun sound => ⟨unnamed, areNamed, sound⟩, fun given => given.2.2⟩

theorem nodup_name_of_validate {file : File} (valid : file.validate = .ok ()) :
    (file.services.map (·.name)).Nodup :=
  ((defect?_eq_none_iff file).mp ((validate_eq_ok_iff file).mp valid)).2.2.2

end File

end ServiceBindings.Schema
