import ServiceBindings.Descriptor.Ingestion
import ServiceBindings.Proofs.Traversal

/-!
# What schema files take from descriptors

A schema file is named like its descriptor, and its services like services of the descriptor.
-/

namespace ServiceBindings.Descriptor

theorem present?_eq_some_iff {text? : Option String} {text : String} :
    present? text? = some text ↔ text? = some text ∧ text ≠ "" := by
  rw [present?, Option.bind_eq_some_iff]
  simp only [Text.nonempty?, String.isEmpty_iff, Option.ite_none_left_eq_some, Option.some.injEq]
  constructor
  · intro given
    obtain ⟨stored, isText, nonempty, rfl⟩ := given
    exact ⟨isText, nonempty⟩
  · intro given
    exact ⟨text, given.1, given.2, rfl⟩

theorem named_eq_ok_iff {file reason name : String} {name? : Option String} :
    named file reason name? = .ok name ↔ name? = some name ∧ name ≠ "" := by
  rw [← present?_eq_some_iff, named]
  cases present? name? <;> simp

theorem Service.toSchema_eq_ok_iff {file : String} {service : Service}
    {schema : Schema.Service} :
    service.toSchema file = .ok schema ↔ ∃ name, (service.name? = some name ∧ name ≠ "") ∧
      ∃ methods, service.methods.mapM (Method.toSchema file name) = .ok methods ∧
        schema = ⟨name, methods⟩ := by
  simp only [toSchema, bind_eq_ok_iff, named_eq_ok_iff, pure, Except.pure, Except.ok.injEq,
    @eq_comm _ _ schema]

/-- A descriptor becomes a schema file in steps, of which the validation of the whole is the
last. -/
theorem File.toSchema_eq_ok_iff {file : File} {schema : Schema.File} :
    file.toSchema = .ok schema ↔ ∃ name, (file.name? = some name ∧ name ≠ "") ∧
      ∃ messages, Message.listToSchema name file.messages = .ok messages ∧
        ∃ enums, file.enums.mapM (Enum.toSchema name) = .ok enums ∧
          ∃ services, file.services.mapM (Service.toSchema name) = .ok services ∧
            schema = ⟨name, present? file.package?,
              (file.options?.map FileOptions.toSchema).getD .default, messages, enums,
              services⟩ ∧ schema.validate = .ok () := by
  simp only [File.toSchema, bind_eq_ok_iff, named_eq_ok_iff, pure, Except.pure, Except.ok.injEq]
  constructor
  · intro given
    obtain ⟨name, isName, messages, messagesConverted, enums, enumsConverted, services,
      servicesConverted, _, valid, rfl⟩ := given
    exact ⟨name, isName, messages, messagesConverted, enums, enumsConverted, services,
      servicesConverted, rfl, valid⟩
  · intro given
    obtain ⟨name, isName, messages, messagesConverted, enums, enumsConverted, services,
      servicesConverted, rfl, valid⟩ := given
    exact ⟨name, isName, messages, messagesConverted, enums, enumsConverted, services,
      servicesConverted, (), valid, rfl⟩

theorem exists_service_of_toSchema {file : File} {schema : Schema.File}
    (ingested : file.toSchema = .ok schema) {service : Schema.Service}
    (member : service ∈ schema.services) :
    ∃ source ∈ file.services, source.name? = some service.name := by
  rcases File.toSchema_eq_ok_iff.mp ingested with ⟨name, _, _, _, _, _, services, converted, rfl, _⟩
  rcases exists_of_mem_mapM converted member with ⟨source, sourceMember, sourceConverted⟩
  rcases Service.toSchema_eq_ok_iff.mp sourceConverted with ⟨_, isName, _, _, rfl⟩
  exact ⟨source, sourceMember, isName.1⟩

theorem name_of_toSchema {file : File} {schema : Schema.File}
    (ingested : file.toSchema = .ok schema) : schema.name = file.nameOrEmpty := by
  rcases File.toSchema_eq_ok_iff.mp ingested with ⟨name, isName, _, _, _, _, _, _, rfl, _⟩
  rw [File.nameOrEmpty, isName.1, Option.getD_some]

theorem names_of_toSchemas {descriptors : List File} {files : List Schema.File}
    (ingested : toSchemas descriptors = .ok files) :
    files.map (·.name) = descriptors.map (·.nameOrEmpty) :=
  map_eq_map_of_mapM name_of_toSchema ingested

end ServiceBindings.Descriptor
